/-!
# Ranges of code points

Classes of characters that no formula gives are tables of ranges, first and last code point
included.  The tables stand in the modules that are named for the classes; this one says what it
means for a character to be in a table.
-/

namespace Lexing.Text

/-- The code points from `first` to `last`, both included. -/
structure CharRange where
  first : Nat
  last : Nat
deriving DecidableEq, Repr

namespace CharRange

/-- The range that holds one code point. -/
def single (code : Nat) : CharRange := ⟨code, code⟩

/-- Whether a character lies in the range. -/
def contains (r : CharRange) (c : Char) : Bool :=
  r.first ≤ c.toNat && c.toNat ≤ r.last

theorem contains_iff {r : CharRange} {c : Char} :
    r.contains c = true ↔ r.first ≤ c.toNat ∧ c.toNat ≤ r.last := by
  simp [contains]

/-- Whether a character lies in one of the ranges of a table. -/
def anyContains (table : List CharRange) (c : Char) : Bool :=
  table.any (·.contains c)

end CharRange

end Lexing.Text
