import Lexing.Proofs.Literal.Decimal
import Lexing.Proofs.Tokens.Standalone

/-!
# Printed numbers

What a number means is a value, and the value is printed in decimal.  The digits that are printed
are the *canonical* ones: of all digits that stand for the number they are those without a zero in
front (`Numeral.toDigits_decimalValue`), so that printing takes the padding away from a padded
number and leaves every other one as it is.

Canonical digits are read alike under all policies.  The one rule that a policy has for digits is
about zeros in front, and alone in a text a `b` behind them is always the suffix.  What was read
once under any policy, and is printed, is therefore read again under every other one, with the same
value (`Scanner.printed_scans_back`).
-/

namespace Lexing

open Text

/-! ## Canonical digits -/

namespace Numeral

variable {digits : List Char}

theorem decimalValue_toDigits (n : ℕ) : decimalValue (Nat.toDigits 10 n) = n := by
  rw [← value_eq_decimalValue, value, Nat.ofDigitChars_ten_toDigits]

theorem toDigits_injective : Function.Injective (Nat.toDigits 10) :=
  Function.LeftInverse.injective decimalValue_toDigits

theorem isDigit_of_mem_toDigits {n : ℕ} : ∀ c ∈ Nat.toDigits 10 n, c.isDigit = true :=
  fun _ hc => Nat.isDigit_of_mem_toDigits (by decide) (by decide) hc

theorem head?_toDigits_ne_zero {n : ℕ} (hn : 0 < n) : (Nat.toDigits 10 n).head? ≠ some '0' := by
  induction n using Nat.strongRecOn with
  | ind n ih =>
    rw [Nat.toDigits_eq_if (by decide)]
    split
    · simp [hn.ne']
    · rw [List.head?_append_of_ne_nil _ Nat.toDigits_ne_nil]
      exact ih _ (by omega) (by omega)

theorem not_needlessZero_toDigits (n : ℕ) : ¬NeedlessZero (Nat.toDigits 10 n) := by
  rintro ⟨hlength, hhead⟩
  rcases Nat.eq_zero_or_pos n with rfl | hn
  · simp at hlength
  · exact head?_toDigits_ne_zero hn hhead

theorem digitChar_of_isDigit {c : Char} (hc : c.isDigit = true) :
    c.toNat - '0'.toNat < 10 ∧ Nat.digitChar (c.toNat - '0'.toNat) = c := by
  obtain ⟨hfirst, hlast⟩ := Char.isDigit_iff_toNat.mp hc
  have hzero : '0'.toNat = 48 := rfl
  have hnine : '9'.toNat = 57 := rfl
  have hlt : c.toNat - '0'.toNat < 10 := by omega
  refine ⟨hlt, Char.toNat_inj.mp ?_⟩
  rw [Nat.toNat_digitChar_of_lt_ten hlt]
  omega

/-- **Canonical digits.**  Digits without a zero that they do not need are the ones that are printed
for their number. -/
theorem toDigits_decimalValue (hne : digits ≠ []) (hdigits : ∀ c ∈ digits, c.isDigit = true)
    (hzero : ¬NeedlessZero digits) : Nat.toDigits 10 (decimalValue digits) = digits := by
  induction digits using List.reverseRecOn with
  | nil => exact absurd rfl hne
  | append_singleton digits c ih =>
    obtain ⟨hdigits, hc⟩ := List.forall_mem_append.mp hdigits
    obtain ⟨hlt, hchar⟩ := digitChar_of_isDigit (hc c List.mem_cons_self)
    rw [decimalValue_append_singleton]
    by_cases hnil : digits = []
    · subst hnil
      rw [show decimalValue [] = 0 from rfl, Nat.mul_zero, Nat.zero_add,
        Nat.toDigits_of_lt_base hlt, hchar, List.nil_append]
    -- with a digit behind it, a zero in front is not needed
    have hhead : digits.head? ≠ some '0' := by
      intro hhead
      refine hzero ⟨?_, by rw [List.head?_append_of_ne_nil _ hnil, hhead]⟩
      have hlength := List.length_pos_iff.mpr hnil
      rw [List.length_append, List.length_singleton]
      omega
    have hprinted := ih hnil hdigits fun hneedless => hhead hneedless.2
    have hpos : 0 < decimalValue digits := by
      refine Nat.pos_of_ne_zero fun hvalue => hhead ?_
      rw [← hprinted, hvalue, Nat.toDigits_zero]
      rfl
    rw [← Nat.toDigits_append_toDigits (by decide) hpos hlt, hprinted,
      Nat.toDigits_of_lt_base hlt, hchar]

end Numeral

/-! ## What is printed -/

/-- Whether the token is a number or a byte literal, and not at fault. -/
def Kind.isNumeral {ε : Type} : Kind ε → Bool
  | .number _ => true
  | .byteNumber _ => true
  | _ => false

/-- A number or a byte literal as it is printed: its value, and the suffix behind that of a byte
literal. -/
def Token.printed (t : Token) : String :=
  match t.kind with
  | .byteNumber _ => t.value ++ "b"
  | _ => t.value

/-- A place is a matter of errors: a number is of the same kind at every one. -/
theorem Kind.placed_unplaced_of_isNumeral {k : Kind LexicalError} (h : k.isNumeral = true)
    (position : Position) : k.unplaced.placed position = k := by
  cases k with
  | number _ => rfl
  | byteNumber _ => rfl
  | _ => cases h

@[simp] theorem Kind.isNumeral_map {ε δ : Type} (f : ε → δ) (k : Kind ε) :
    (k.map f).isNumeral = k.isNumeral := by
  cases k <;> rfl

namespace Numeral

variable {policy : Policy} {digits digits' : List Char} {byteForm : Bool}

theorem not_refused_of_isNumeral (h : (kind policy digits byteForm).isNumeral = true) :
    NeedlessZero digits → policy.allowLeadingZeros = true := by
  rw [← not_refusesZero_iff]
  by_contra hrefused
  rw [kind, if_pos (by simpa using hrefused)] at h
  cases h

/-- What is accepted for its value is accepted under every policy, however it is written, as long as
no zero stands in front that is not needed. -/
theorem kind_eq_of_decimalValue_eq (h : (kind policy digits byteForm).isNumeral = true)
    (hvalue : decimalValue digits' = decimalValue digits) (hzero : ¬NeedlessZero digits')
    (policy' : Policy) : kind policy' digits' byteForm = kind policy digits byteForm := by
  have hrefused := not_refused_of_isNumeral h
  rw [kind_of_not_refused hrefused] at h ⊢
  rw [kind_of_not_refused (fun hneedless => absurd hneedless hzero), hvalue]
  -- the texts differ where there is an error only
  split_ifs at h ⊢ with hbyte hlimit hlimit
  · rfl
  · cases h
  · rfl
  · cases h

theorem printed_of_isNumeral {t : Token} {position : Position}
    (h : (kind policy digits byteForm).isNumeral = true)
    (ht : t.kind = (kind policy digits byteForm).placed position) :
    t.printed.toList = text (Nat.toDigits 10 (decimalValue digits)) byteForm := by
  have hrefused := not_refused_of_isNumeral h
  rw [kind_of_not_refused hrefused] at h ht
  cases byteForm with
  | true =>
    rw [if_pos rfl] at h ht
    split at h
    · next hlimit =>
      rw [if_pos hlimit] at ht
      have hvalue : (UInt8.ofNat (decimalValue digits)).toNat = decimalValue digits :=
        UInt8.toNat_ofNat_of_lt (Nat.lt_succ_of_le hlimit)
      have hprinted : t.printed = toString (UInt8.ofNat (decimalValue digits)).toNat ++ "b" := by
        rw [Token.printed, Token.value, ht]
        rfl
      rw [hprinted, hvalue, String.toList_append, Nat.toString_eq_ofList_toDigits,
        String.toList_ofList]
      rfl
    · cases h
  | false =>
    rw [if_neg Bool.false_ne_true] at h ht
    split at h
    · next hlimit =>
      rw [if_pos hlimit] at ht
      have hvalue : (Int32.ofNat (decimalValue digits)).toInt = decimalValue digits :=
        Int32.toInt_ofNat_of_lt (Nat.lt_succ_of_le hlimit)
      have hprinted : t.printed = toString (Int32.ofNat (decimalValue digits)).toInt := by
        rw [Token.printed, Token.value, ht]
        rfl
      rw [hprinted, hvalue]
      exact Nat.toList_repr
    · cases h

end Numeral

namespace Lexeme

variable {policy : Policy} {kind : Kind Fault} {text after : List Char}

/-- What is a number or a byte literal was judged by its digits. -/
theorem Front.exists_digits_of_isNumeral (h : Front policy ⟨.token kind, text⟩ after)
    (hkind : kind.isNumeral = true) :
    ∃ digits byteForm, digits ≠ [] ∧ (∀ c ∈ digits, c.isDigit = true) ∧
      kind = Numeral.kind policy digits byteForm ∧ text = Numeral.text digits byteForm := by
  generalize hl : (⟨.token kind, text⟩ : Lexeme) = l at h
  cases h with
  | layout => cases hl
  | comment => cases hl
  | word =>
    simp only [mk.injEq, Shape.token.injEq, wordKind] at hl
    rw [hl.1] at hkind
    split at hkind <;> cases hkind
  | number hne hdigits =>
    cases hl
    exact ⟨_, false, hne, hdigits, rfl, rfl⟩
  | byteNumber hne hdigits =>
    cases hl
    exact ⟨_, true, hne, hdigits, rfl, rfl⟩
  | string => cases hl; cases hkind
  | openString => cases hl; cases hkind
  | symbol => cases hl; cases hkind
  | unknown => cases hl; cases hkind

/-- Digits that are alone in a text, with or without the suffix, are one lexeme. -/
theorem lexemes_numeral (policy : Policy) {digits : List Char} (hne : digits ≠ [])
    (hdigits : ∀ c ∈ digits, c.isDigit = true) (byteForm : Bool) :
    lexemes policy (Numeral.text digits byteForm) =
      [⟨.token (Numeral.kind policy digits byteForm), Numeral.text digits byteForm⟩] := by
  cases byteForm with
  | false => exact (Front.number hne hdigits stopsAt_nil rfl).lexemes_text
  | true => exact (Front.byteNumber hne hdigits stopsAt_nil).lexemes_text

end Lexeme

namespace Scanner

variable {source : String} {file : Option String} {policy : Policy} {t : Token}

/-- **Printed numbers are read again.**  A number or a byte literal that a scan under any policy
finds is printed as text which every policy reads as one token and nothing else: with the kind and
the value that it had, and with the text as it was printed.  Where zeros in front are not allowed,
this is the text that it had in the source. -/
theorem printed_scans_back (ht : t ∈ tokenize source file policy)
    (hnumeral : t.kind.isNumeral = true) :
    (∀ file' policy', (start t.printed file' policy').items =
      [.token ⟨t.kind, t.printed, 1,
        Span.ofLength (file'.getD unnamed) 0 t.printed.utf8ByteSize⟩]) ∧
    (policy.allowLeadingZeros = false → t.printed = t.lexeme) := by
  obtain ⟨after, hfront⟩ := exists_front_of_mem_items (mem_tokenize.mp ht)
  have hunplaced : t.kind.unplaced.isNumeral = true := (Kind.isNumeral_map _ _).trans hnumeral
  obtain ⟨digits, byteForm, hne, hdigits, hkind, htext⟩ :=
    hfront.exists_digits_of_isNumeral hunplaced
  have haccepted : (Numeral.kind policy digits byteForm).isNumeral = true := hkind ▸ hunplaced
  have hplaced (position : Position) :
      (Numeral.kind policy digits byteForm).placed position = t.kind :=
    hkind ▸ Kind.placed_unplaced_of_isNumeral hnumeral position
  have hprinted : t.printed.toList =
      Numeral.text (Nat.toDigits 10 (Numeral.decimalValue digits)) byteForm :=
    Numeral.printed_of_isNumeral haccepted (hplaced ⟨0, unnamed⟩).symm
  constructor
  · intro file' policy'
    have hagain : Numeral.kind policy' (Nat.toDigits 10 (Numeral.decimalValue digits)) byteForm =
        Numeral.kind policy digits byteForm :=
      Numeral.kind_eq_of_decimalValue_eq haccepted (Numeral.decimalValue_toDigits _)
        (Numeral.not_needlessZero_toDigits _) policy'
    rw [items_start, hprinted, Lexeme.lexemes_numeral policy' Nat.toDigits_ne_nil
      Numeral.isDigit_of_mem_toDigits byteForm, hagain, ← hprinted, Lexeme.placeAll_cons,
      Lexeme.placeAll_nil, Lexeme.place]
    simp only [hplaced, String.ofList_toList, Text.utf8Length_toList]
  · intro hstrict
    have hzero : ¬Numeral.NeedlessZero digits := fun hneedless =>
      absurd (Numeral.not_refused_of_isNumeral haccepted hneedless) (by simp [hstrict])
    rw [Numeral.toDigits_decimalValue hne hdigits hzero, ← htext] at hprinted
    exact String.toList_inj.mp hprinted

/-- A byte literal with zeros in front is printed without them, and is a byte literal under the
strict policy then. -/
theorem printed_scans_back_padded :
    ∃ t ∈ tokenize "x = 000255b;" none ⟨true, false, false⟩,
      t.kind = .byteNumber 255 ∧ t.lexeme = "000255b" ∧ t.printed = "255b" ∧
      (start "255b" none .strict).items =
        [.token ⟨.byteNumber 255, "255b", 1, Span.ofLength "<input>" 0 4⟩] := by
  let t : Token := ⟨.byteNumber 255, "000255b", 1, ⟨⟨4, "<input>"⟩, ⟨11, "<input>"⟩⟩⟩
  have ht : t ∈ tokenize "x = 000255b;" none ⟨true, false, false⟩ := by decide +kernel
  obtain ⟨hagain, -⟩ := printed_scans_back ht rfl
  exact ⟨t, ht, rfl, rfl, rfl, hagain none .strict⟩

end Scanner

end Lexing
