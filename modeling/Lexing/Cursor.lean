import Lexing.Text.Utf8

/-!
# A place in a text

A cursor stands between two characters of a text.  It knows the text behind it by its length in
bytes and by its line feeds, and the text ahead as it is.  Looking ahead does not move it; `advance`
is the only way forward, and `advanceBy` and `eatWhile` repeat it.

The line counter has 32 bits.  `offset_advanceBy` and `line_advanceBy` say what the two counters
have counted after any number of steps.
-/

namespace Lexing

/-- A place in a text, before the characters of `rest`. -/
structure Cursor where
  /-- The whole text. -/
  source : List Char
  /-- The text from the cursor on. -/
  rest : List Char
  /-- The number of bytes before the cursor. -/
  offset : Nat
  /-- The line that the cursor stands on, counted from 1. -/
  line : UInt32
deriving DecidableEq, Repr

namespace Cursor

/-- The place before the first character. -/
def start (source : String) : Cursor :=
  ⟨source.toList, source.toList, 0, 1⟩

/-- The character behind the cursor's place, or none at the end. -/
def peek? (c : Cursor) : Option Char := c.rest.head?

/-- The character after the one that `peek?` shows. -/
def peekSecond? (c : Cursor) : Option Char := c.rest.tail.head?

/-- The place after the next character.  At the end there is no next character, and the cursor stays
where it is. -/
def advance (c : Cursor) : Cursor :=
  match c.rest with
  | [] => c
  | char :: rest =>
    { c with
      rest := rest
      offset := c.offset + char.utf8Size
      line := if char = '\n' then c.line + 1 else c.line }

/-- The place after the next `n` characters, or the end if there are fewer. -/
def advanceBy : Nat → Cursor → Cursor
  | 0, c => c
  | n + 1, c => advanceBy n c.advance

/-- The text between two byte offsets; none if they are no boundaries of the text, or out of
order. -/
def slice? (c : Cursor) (start stop : Nat) : Option String :=
  (Text.slice? start stop c.source).map String.ofList

theorem advanceBy_add (m n : Nat) (c : Cursor) :
    c.advanceBy (m + n) = (c.advanceBy m).advanceBy n := by
  induction m generalizing c with
  | zero => rw [Nat.zero_add, advanceBy]
  | succ m ih => rw [Nat.succ_add, advanceBy, advanceBy, ih]

@[simp] theorem source_advance (c : Cursor) : c.advance.source = c.source := by
  unfold advance
  split <;> rfl

@[simp] theorem rest_advance (c : Cursor) : c.advance.rest = c.rest.tail := by
  unfold advance
  split
  · next h => simp [h]
  · next h => simp [h]

@[simp] theorem source_advanceBy (n : Nat) (c : Cursor) : (advanceBy n c).source = c.source := by
  induction n generalizing c with
  | zero => rfl
  | succ n ih => rw [advanceBy, ih, source_advance]

@[simp] theorem rest_advanceBy (n : Nat) (c : Cursor) : (advanceBy n c).rest = c.rest.drop n := by
  induction n generalizing c with
  | zero => rfl
  | succ n ih => rw [advanceBy, ih, rest_advance, List.drop_tail]

theorem offset_advanceBy (n : Nat) (c : Cursor) :
    (advanceBy n c).offset = c.offset + Text.utf8Length (c.rest.take n) := by
  induction n generalizing c with
  | zero => simp [advanceBy]
  | succ n ih =>
    rw [advanceBy, ih, rest_advance]
    unfold advance
    split
    · next h => simp [h]
    · next h => simp [h, Nat.add_assoc]

theorem line_advanceBy (n : Nat) (c : Cursor) :
    (advanceBy n c).line = c.line + UInt32.ofNat ((c.rest.take n).count '\n') := by
  induction n generalizing c with
  | zero => simp [advanceBy]
  | succ n ih =>
    rw [advanceBy, ih, rest_advance]
    unfold advance
    split
    · next h => simp [h]
    · next char rest h =>
      by_cases hc : char = '\n'
      · simp [h, hc, UInt32.ofNat_add, UInt32.add_assoc, UInt32.add_comm 1]
      · simp [h, hc]

/-! ## Eating what a predicate accepts -/

/-- Advances over the characters that a predicate accepts, up to the first that it refuses, which
stays ahead, or up to the end.  The predicate may remember something from one call to the next; what
it remembers at last is given back. -/
def eatWhile {σ : Type} (accepts : σ → Char → Bool × σ) (memory : σ) (c : Cursor) : σ × Cursor :=
  match _ : c.rest with
  | [] => (memory, c)
  | char :: _ =>
    match accepts memory char with
    | (true, memory) => eatWhile accepts memory c.advance
    | (false, memory) => (memory, c)
termination_by c.rest.length
decreasing_by simp_all

end Cursor

/-- A predicate on characters that counts how often it is asked. -/
structure CharFilter where
  /-- The characters that it looks for. -/
  chars : List Char
  /-- Whether it accepts the others instead. -/
  complement : Bool
  /-- The number of calls after which it refuses everything, if there is one. -/
  budget : Option Nat
deriving DecidableEq, Repr

namespace CharFilter

/-- Judges a character after `calls` earlier calls; also gives the number of calls so far. -/
def accepts (f : CharFilter) (calls : Nat) (c : Char) : Bool × Nat :=
  ((f.chars.contains c != f.complement) && f.budget.all (calls < ·), calls + 1)

/-- Eats what the filter accepts, and gives the number of its calls. -/
def eat (f : CharFilter) (c : Cursor) : Nat × Cursor :=
  c.eatWhile f.accepts 0

end CharFilter

end Lexing
