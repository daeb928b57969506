import Lexing.Lexeme.Basic
import Lexing.Policy

/-!
# Numbers

A number is a run of decimal digits.  Followed by the suffix `b` it is a byte literal; the suffix
belongs to it only if no word goes on behind, so that `5bc` is the number `5` and the word `bc`.

The digits stand for a natural number without bound, and the limits are compared with that: no run
is too long to be judged.  A needless zero in front is reported first, before any limit.
-/

namespace Lexing.Numeral

/-- Whether the text behind the digits starts with the suffix of byte literals. -/
def hasByteSuffix (policy : Policy) : List Char → Bool
  | ['b'] => true
  | 'b' :: c :: _ => !policy.continuesWord c
  | _ => false

/-- The natural number that a run of digits stands for. -/
def value (digits : List Char) : Nat :=
  Nat.ofDigitChars 10 digits 0

/-- Whether a run of digits starts with a zero that it does not need. -/
def hasLeadingZero (digits : List Char) : Bool :=
  digits.head? = some '0' && 1 < digits.length

/-- The text of a number, with its suffix if it is a byte literal. -/
def text (digits : List Char) (byteForm : Bool) : List Char :=
  if byteForm then digits ++ ['b'] else digits

/-- What a run of digits is, with or without the suffix of byte literals. -/
def kind (policy : Policy) (digits : List Char) (byteForm : Bool) : Kind Fault :=
  let lexeme := String.ofList (text digits byteForm)
  if hasLeadingZero digits && !policy.allowLeadingZeros then
    .error (.malformedNumber lexeme .leadingZero)
  else if byteForm then
    if value digits ≤ byteLimit then .byteNumber (UInt8.ofNat (value digits))
    else .error (.malformedByteLiteral lexeme)
  else
    if value digits ≤ numberLimit then .number (Int32.ofNat (value digits))
    else .error (.malformedNumber lexeme .outOfRange)

/-- The number at the front of a text that starts with a digit. -/
def read (policy : Policy) (cs : List Char) : Lexeme :=
  let digits := cs.takeWhile Char.isDigit
  let byteForm := hasByteSuffix policy (cs.dropWhile Char.isDigit)
  ⟨.token (kind policy digits byteForm), text digits byteForm⟩

theorem exists_of_hasByteSuffix {policy : Policy} {cs : List Char}
    (h : hasByteSuffix policy cs = true) : ∃ rest, cs = 'b' :: rest := by
  unfold hasByteSuffix at h
  split at h
  · exact ⟨[], rfl⟩
  · exact ⟨_, rfl⟩
  · simp at h

theorem text_read_prefix (policy : Policy) (cs : List Char) : (read policy cs).text <+: cs := by
  simp only [read, text]
  split
  · next h =>
    obtain ⟨rest, hrest⟩ := exists_of_hasByteSuffix h
    refine ⟨rest, ?_⟩
    rw [List.append_assoc, List.singleton_append, ← hrest, List.takeWhile_append_dropWhile]
  · exact List.takeWhile_prefix _

theorem text_read_ne_nil (policy : Policy) {c : Char} {cs : List Char} (h : c.isDigit = true) :
    (read policy (c :: cs)).text ≠ [] := by
  simp only [read, text, List.takeWhile_cons, h]
  split <;> simp

end Lexing.Numeral
