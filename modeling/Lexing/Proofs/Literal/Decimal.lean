import Lexing.Proofs.Lexeme.Front
import Lexing.Proofs.Scan.Pulls
import Mathlib.Data.List.Induction
import Mathlib.Data.Nat.Digits.Defs

/-!
# What a run of digits is

A run of digits stands for a natural number, and there is no bound to how long it is or how large
the number gets (`decimalValue`).  What the run is, a number, a byte literal or an error, depends on
this number, on whether a zero stands in front that is not needed, and on what follows the run.
`Judged` lists the cases; the value that a number or a byte literal carries is given there by the
natural number that it is, so that one that had wrapped would not do.

`judged_iff` says that the cases leave nothing out, that no two of them meet, and that the case
which applies is what is read off the digits.
-/

namespace Lexing

open Text

theorem Policy.continuesWord_of_isDigit (policy : Policy) {c : Char} (hc : c.isDigit = true) :
    policy.continuesWord c = true := by
  simp [continuesWord, Char.isAlphanum, hc]

namespace Numeral

/-! ## The number that digits stand for -/

/-- The number that decimal digits stand for: the last digit counts once, and every other one ten
times as much as the digit behind it. -/
def decimalValue (digits : List Char) : ℕ :=
  Nat.ofDigits 10 (digits.reverse.map fun c => c.toNat - '0'.toNat)

theorem decimalValue_append_singleton (digits : List Char) (c : Char) :
    decimalValue (digits ++ [c]) = 10 * decimalValue digits + (c.toNat - '0'.toNat) := by
  rw [decimalValue, decimalValue, List.reverse_append, List.reverse_singleton,
    List.singleton_append, List.map_cons, Nat.ofDigits_cons, Nat.add_comm]

theorem value_eq_decimalValue (digits : List Char) : value digits = decimalValue digits := by
  induction digits using List.reverseRecOn with
  | nil => rfl
  | append_singleton digits c ih =>
    rw [value, Nat.ofDigitChars_append, Nat.ofDigitChars_cons, Nat.ofDigitChars_nil, ← value, ih,
      decimalValue_append_singleton]

/-- Zeros in front, however many, leave the number as it is. -/
theorem decimalValue_replicate_append (n : ℕ) (digits : List Char) :
    decimalValue (List.replicate n '0' ++ digits) = decimalValue digits := by
  rw [decimalValue, decimalValue, List.reverse_append, List.reverse_replicate, List.map_append,
    List.map_replicate]
  exact Nat.ofDigits_append_replicate_zero _

/-! ## The cases -/

/-- The first of the digits is a zero that they do not need. -/
def NeedlessZero (digits : List Char) : Prop :=
  1 < digits.length ∧ digits.head? = some '0'

/-- The text starts with a `b`, and no word goes on behind it. -/
def Suffixed (policy : Policy) (rest : List Char) : Prop :=
  ∃ after, rest = 'b' :: after ∧ ∀ c ∈ after.head?, policy.continuesWord c = false

/-- How the number is written whose digits stand before `rest`, and whether it is a byte literal. -/
inductive Spelled (policy : Policy) (digits rest : List Char) : Bool → List Char → Prop
  | plain (hrest : ¬Suffixed policy rest) : Spelled policy digits rest false digits
  | byte (hrest : Suffixed policy rest) : Spelled policy digits rest true (digits ++ ['b'])

/-- How the number is written whose digits stand before `rest`, and what it is. -/
inductive Judged (policy : Policy) (digits rest : List Char) : List Char → Kind Fault → Prop
  | leadingZero {byteForm : Bool} {text : List Char}
      (htext : Spelled policy digits rest byteForm text) (hzero : NeedlessZero digits)
      (hstrict : policy.allowLeadingZeros = false) :
      Judged policy digits rest text (.error (.malformedNumber (String.ofList text) .leadingZero))
  | byteNumber {text : List Char} {v : UInt8} (htext : Spelled policy digits rest true text)
      (hzero : NeedlessZero digits → policy.allowLeadingZeros = true)
      (hlimit : decimalValue digits ≤ 255) (hv : v.toNat = decimalValue digits) :
      Judged policy digits rest text (.byteNumber v)
  | largeByte {text : List Char} (htext : Spelled policy digits rest true text)
      (hzero : NeedlessZero digits → policy.allowLeadingZeros = true)
      (hlimit : 255 < decimalValue digits) :
      Judged policy digits rest text (.error (.malformedByteLiteral (String.ofList text)))
  | number {text : List Char} {v : Int32} (htext : Spelled policy digits rest false text)
      (hzero : NeedlessZero digits → policy.allowLeadingZeros = true)
      (hlimit : decimalValue digits ≤ 2147483647) (hv : v.toInt = decimalValue digits) :
      Judged policy digits rest text (.number v)
  | largeNumber {text : List Char} (htext : Spelled policy digits rest false text)
      (hzero : NeedlessZero digits → policy.allowLeadingZeros = true)
      (hlimit : 2147483647 < decimalValue digits) :
      Judged policy digits rest text (.error (.malformedNumber (String.ofList text) .outOfRange))

/-! ## The cases are what is read -/

variable {policy : Policy} {digits rest : List Char}

theorem hasLeadingZero_iff : hasLeadingZero digits = true ↔ NeedlessZero digits := by
  rw [hasLeadingZero, Bool.and_eq_true, decide_eq_true_eq, decide_eq_true_eq, and_comm]
  rfl

theorem hasByteSuffix_iff_suffixed : hasByteSuffix policy rest = true ↔ Suffixed policy rest :=
  hasByteSuffix_iff

theorem spelled_iff {byteForm : Bool} {text : List Char} :
    Spelled policy digits rest byteForm text ↔
      byteForm = hasByteSuffix policy rest ∧ text = Numeral.text digits byteForm := by
  constructor
  · rintro (hrest | hrest)
    · rw [← hasByteSuffix_iff_suffixed, Bool.not_eq_true] at hrest
      exact ⟨hrest.symm, rfl⟩
    · exact ⟨(hasByteSuffix_iff_suffixed.mpr hrest).symm, rfl⟩
  · rintro ⟨rfl, rfl⟩
    cases hsuffix : hasByteSuffix policy rest with
    | false =>
      exact .plain (by rw [← hasByteSuffix_iff_suffixed, hsuffix]; exact Bool.false_ne_true)
    | true => exact .byte (hasByteSuffix_iff_suffixed.mp hsuffix)

/-- A zero in front is refused, or the digits are judged by what they stand for. -/
theorem refusesZero_iff :
    (hasLeadingZero digits && !policy.allowLeadingZeros) = true ↔
      NeedlessZero digits ∧ policy.allowLeadingZeros = false := by
  rw [Bool.and_eq_true, hasLeadingZero_iff, Bool.not_eq_true']

theorem not_refusesZero_iff :
    (hasLeadingZero digits && !policy.allowLeadingZeros) = false ↔
      (NeedlessZero digits → policy.allowLeadingZeros = true) := by
  rw [← Bool.not_eq_true, refusesZero_iff, not_and, Bool.not_eq_false]

/-- Where no zero in front is refused, the limits decide. -/
theorem kind_of_not_refused (hzero : NeedlessZero digits → policy.allowLeadingZeros = true)
    (byteForm : Bool) :
    kind policy digits byteForm =
      if byteForm = true then
        if decimalValue digits ≤ 255 then .byteNumber (UInt8.ofNat (decimalValue digits))
        else .error (.malformedByteLiteral (String.ofList (text digits byteForm)))
      else
        if decimalValue digits ≤ 2147483647 then .number (Int32.ofNat (decimalValue digits))
        else .error (.malformedNumber (String.ofList (text digits byteForm)) .outOfRange) := by
  rw [kind, not_refusesZero_iff.mpr hzero, value_eq_decimalValue, if_neg Bool.false_ne_true]
  rfl

theorem judged_kind (policy : Policy) (digits rest : List Char) :
    Judged policy digits rest (text digits (hasByteSuffix policy rest))
      (kind policy digits (hasByteSuffix policy rest)) := by
  have htext : Spelled policy digits rest (hasByteSuffix policy rest)
      (text digits (hasByteSuffix policy rest)) := spelled_iff.mpr ⟨rfl, rfl⟩
  generalize hasByteSuffix policy rest = byteForm at htext ⊢
  cases hrefused : hasLeadingZero digits && !policy.allowLeadingZeros with
  | true =>
    obtain ⟨hzero, hstrict⟩ := refusesZero_iff.mp hrefused
    rw [kind, if_pos hrefused]
    exact .leadingZero htext hzero hstrict
  | false =>
    have hzero := not_refusesZero_iff.mp hrefused
    rw [kind_of_not_refused hzero]
    cases byteForm with
    | true =>
      rw [if_pos rfl]
      split
      · next hlimit =>
        exact .byteNumber htext hzero hlimit (UInt8.toNat_ofNat_of_lt (Nat.lt_succ_of_le hlimit))
      · next hlimit => exact .largeByte htext hzero (Nat.lt_of_not_le hlimit)
    | false =>
      rw [if_neg Bool.false_ne_true]
      split
      · next hlimit =>
        exact .number htext hzero hlimit (Int32.toInt_ofNat_of_lt (Nat.lt_succ_of_le hlimit))
      · next hlimit => exact .largeNumber htext hzero (Nat.lt_of_not_le hlimit)

theorem Judged.eq {lexeme : List Char} {k : Kind Fault} (h : Judged policy digits rest lexeme k) :
    text digits (hasByteSuffix policy rest) = lexeme ∧
      kind policy digits (hasByteSuffix policy rest) = k := by
  -- the suffix and the text are the same in all cases
  have hspelled : ∀ {byteForm}, Spelled policy digits rest byteForm lexeme →
      hasByteSuffix policy rest = byteForm ∧ text digits byteForm = lexeme := fun htext =>
    (spelled_iff.mp htext).imp Eq.symm Eq.symm
  cases h with
  | leadingZero htext hzero hstrict =>
    obtain ⟨hsuffix, rfl⟩ := hspelled htext
    rw [hsuffix, kind, if_pos (refusesZero_iff.mpr ⟨hzero, hstrict⟩)]
    exact ⟨rfl, rfl⟩
  | byteNumber htext hzero hlimit hv =>
    obtain ⟨hsuffix, rfl⟩ := hspelled htext
    rw [hsuffix, kind_of_not_refused hzero, if_pos rfl, if_pos hlimit, ← hv, UInt8.ofNat_toNat]
    exact ⟨rfl, rfl⟩
  | largeByte htext hzero hlimit =>
    obtain ⟨hsuffix, rfl⟩ := hspelled htext
    rw [hsuffix, kind_of_not_refused hzero, if_pos rfl, if_neg (Nat.not_le_of_lt hlimit)]
    exact ⟨rfl, rfl⟩
  | number htext hzero hlimit hv =>
    obtain ⟨hsuffix, rfl⟩ := hspelled htext
    rw [hsuffix, kind_of_not_refused hzero, if_neg Bool.false_ne_true, if_pos hlimit,
      ← Int32.ofInt_eq_ofNat, ← hv, Int32.ofInt_toInt]
    exact ⟨rfl, rfl⟩
  | largeNumber htext hzero hlimit =>
    obtain ⟨hsuffix, rfl⟩ := hspelled htext
    rw [hsuffix, kind_of_not_refused hzero, if_neg Bool.false_ne_true,
      if_neg (Nat.not_le_of_lt hlimit)]
    exact ⟨rfl, rfl⟩

/-- The cases say what is read off the digits, and one of them always applies. -/
theorem judged_iff {lexeme : List Char} {k : Kind Fault} :
    text digits (hasByteSuffix policy rest) = lexeme ∧
        kind policy digits (hasByteSuffix policy rest) = k ↔
      Judged policy digits rest lexeme k := by
  constructor
  · rintro ⟨rfl, rfl⟩
    exact judged_kind policy digits rest
  · exact Judged.eq

end Numeral

namespace Lexeme

theorem stopsAt_isDigit {policy : Policy} {after : List Char}
    (h : StopsAt policy.continuesWord after) : StopsAt Char.isDigit after := by
  intro c hc
  by_contra hdigit
  have hword := h c hc
  rw [policy.continuesWord_of_isDigit (by simpa using hdigit)] at hword
  cases hword

/-- A number stands at the front of its digits, whatever follows them that is no digit, and none
follows the number. -/
theorem exists_front_of_digits (policy : Policy) {digits rest : List Char} (hne : digits ≠ [])
    (hdigits : ∀ c ∈ digits, c.isDigit = true) (hrest : StopsAt Char.isDigit rest) :
    ∃ after,
      digits ++ rest = Numeral.text digits (Numeral.hasByteSuffix policy rest) ++ after ∧
        StopsAt Char.isDigit after ∧
        Front policy
          ⟨.token (Numeral.kind policy digits (Numeral.hasByteSuffix policy rest)),
            Numeral.text digits (Numeral.hasByteSuffix policy rest)⟩ after := by
  cases hsuffix : Numeral.hasByteSuffix policy rest with
  | false => exact ⟨rest, rfl, hrest, .number hne hdigits hrest hsuffix⟩
  | true =>
    obtain ⟨after, rfl, hafter⟩ := Numeral.hasByteSuffix_iff.mp hsuffix
    refine ⟨after, ?_, stopsAt_isDigit hafter, .byteNumber hne hdigits hafter⟩
    rw [Numeral.text, if_pos rfl, List.append_assoc, List.singleton_append]

end Lexeme

namespace Scanner

/-- **Numbers are judged by exact arithmetic.**  At every place that a scan reaches and where a
digit is next, the next item is a token.  Let `digits` be all the digits there, up to `rest`: the
text of the token and its kind are those that the cases of `Numeral.Judged` give.  There is no bound
to the number of digits, and zeros in front of them do not change what they stand for. -/
theorem number_judged_exactly {source : String} {file : Option String} {policy : Policy}
    {items : List Item} {s : Scanner} {digits rest : List Char}
    (hs : Pulls (start source file policy) items s)
    (hsource : source.toList = Item.textOf items ++ (digits ++ rest)) (hne : digits ≠ [])
    (hdigits : ∀ c ∈ digits, c.isDigit = true) (hrest : ∀ c ∈ rest.head?, c.isDigit = false) :
    (∃ token next, s.nextItem? = some (.token token, next) ∧
      ∀ text kind, token.lexeme.toList = text ∧ token.kind.unplaced = kind ↔
        Numeral.Judged policy digits rest text kind) ∧
      ∀ n, Numeral.decimalValue (List.replicate n '0' ++ digits) = Numeral.decimalValue digits := by
  refine ⟨?_, fun n => Numeral.decimalValue_replicate_append n digits⟩
  have hahead : s.cursor.rest = digits ++ rest := hs.rest_of_start hsource
  have hpolicy : s.policy = policy := hs.policy_eq
  obtain ⟨after, hafter, -, hfront⟩ := Lexeme.exists_front_of_digits policy hne hdigits hrest
  have hnext := hfront.next?_eq_some
  rw [← hafter, ← hahead, ← hpolicy, ← String.toList_ofList (l := Numeral.text _ _)] at hnext
  obtain ⟨token, next, htoken, hkind, hlexeme⟩ := exists_token_iff.mpr hnext
  refine ⟨token, next, htoken, fun text kind => ?_⟩
  rw [hkind, hlexeme, String.toList_ofList, hpolicy]
  exact Numeral.judged_iff

/-- Zeros in front are allowed, the suffix is not one for the word behind it, and the number is the
greatest that there is. -/
theorem number_judged_exactly_padded :
    ∃ items s, Pulls (start "-0002147483647b_" none ⟨true, false, true⟩) items s ∧
      "-0002147483647b_".toList = Item.textOf items ++ ("0002147483647".toList ++ "b_".toList) ∧
      ∃ token next, s.nextItem? = some (.token token, next) ∧
        ∀ text kind, token.lexeme.toList = text ∧ token.kind.unplaced = kind ↔
          Numeral.Judged ⟨true, false, true⟩ "0002147483647".toList "b_".toList text kind := by
  have hs : Pulls (start "-0002147483647b_" none ⟨true, false, true⟩) _ _ := .cons rfl (.nil _)
  have hdigits : ∀ c ∈ "0002147483647".toList, c.isDigit = true := List.all_eq_true.mp rfl
  have hrest : ∀ c ∈ "b_".toList.head?, c.isDigit = false := by
    rintro c ⟨⟩
    rfl
  exact ⟨_, _, hs, rfl, (number_judged_exactly hs rfl (by decide) hdigits hrest).1⟩

end Scanner

end Lexing
