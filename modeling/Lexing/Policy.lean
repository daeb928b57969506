/-!
# Policy

Three rules of the language are left open, and a `Policy` closes them.  The default is the strict
reading: no zero in front of a number, keywords in lower case only, words of letters and digits
only.
-/

namespace Lexing

/-- The choices that the language leaves open. -/
structure Policy where
  /-- A number may start with a zero that it does not need. -/
  allowLeadingZeros : Bool := false
  /-- A keyword is recognised in any mixture of upper and lower case. -/
  ignoreKeywordCase : Bool := false
  /-- The underscore counts as a letter. -/
  allowUnderscores : Bool := false
deriving DecidableEq, Repr

namespace Policy

/-- The policy that leaves every rule as strict as it can be. -/
def strict : Policy := ⟨false, false, false⟩

/-- Whether a word may start with the character: an ASCII letter, or an underscore if that is
allowed. -/
def startsWord (p : Policy) (c : Char) : Bool :=
  c.isAlpha || (p.allowUnderscores && c = '_')

/-- Whether a word may go on with the character: an ASCII letter or digit, or an underscore if that
is allowed. -/
def continuesWord (p : Policy) (c : Char) : Bool :=
  c.isAlphanum || (p.allowUnderscores && c = '_')

theorem continuesWord_of_startsWord {p : Policy} {c : Char} (h : p.startsWord c = true) :
    p.continuesWord c = true := by
  simp only [startsWord, continuesWord, Char.isAlphanum, Bool.or_eq_true] at h ⊢
  exact h.imp_left Or.inl

theorem startsWord_eq_false_of_isDigit {p : Policy} {c : Char} (h : c.isDigit = true) :
    p.startsWord c = false := by
  -- the digits come before the letters and before the underscore
  have hne : c ≠ '_' := by rintro rfl; revert h; decide
  have hupper : c.isUpper = decide (c.val ≥ 'A'.val ∧ c.val ≤ 'Z'.val) := rfl
  have hlower : c.isLower = (decide (c.val ≥ 'a'.val) && decide (c.val ≤ 'z'.val)) := rfl
  have halpha : c.isAlpha = (c.isUpper || c.isLower) := rfl
  simp [Char.isDigit, UInt32.le_iff_toNat_le] at h
  simp [startsWord, hne, halpha, hupper, hlower, UInt32.le_iff_toNat_le]
  omega

end Policy

end Lexing
