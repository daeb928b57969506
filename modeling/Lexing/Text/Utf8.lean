/-!
# Byte offsets into text

Positions in a source are counted in bytes of its UTF-8 form, while everything that recognises,
quotes or draws text works on characters.  This module holds the passage between the two counts:

* `utf8Length` measures text in bytes;
* `charIndex?` turns a byte offset into a number of characters, and refuses one that lies past the
  end or inside a character;
* `slice?` is the text between two byte offsets, where both are allowed.

`charIndex?_utf8Length` says that the offsets which are allowed are exactly the lengths of the
text's prefixes.
-/

namespace Lexing.Text

/-- The number of bytes that characters take in UTF-8. -/
def utf8Length (cs : List Char) : Nat :=
  cs.foldl (fun n c => n + c.utf8Size) 0

theorem foldl_utf8Size (n : Nat) (cs : List Char) :
    cs.foldl (fun n c => n + c.utf8Size) n = n + utf8Length cs := by
  induction cs generalizing n with
  | nil => rfl
  | cons c cs ih =>
    rw [List.foldl_cons, ih, show utf8Length (c :: cs) = 0 + c.utf8Size + utf8Length cs from ih _]
    omega

@[simp] theorem utf8Length_nil : utf8Length [] = 0 := rfl

@[simp] theorem utf8Length_cons (c : Char) (cs : List Char) :
    utf8Length (c :: cs) = c.utf8Size + utf8Length cs := by
  rw [utf8Length, List.foldl_cons, foldl_utf8Size]
  omega

@[simp] theorem utf8Length_append (cs ds : List Char) :
    utf8Length (cs ++ ds) = utf8Length cs + utf8Length ds := by
  induction cs with
  | nil => simp
  | cons c cs ih => simp [ih, Nat.add_assoc]

/-- Every character takes a byte at least, so text is empty as soon as its length is zero. -/
theorem utf8Length_eq_zero_iff {cs : List Char} : utf8Length cs = 0 ↔ cs = [] := by
  cases cs with
  | nil => simp
  | cons c cs =>
    have := c.utf8Size_pos
    simp only [utf8Length_cons, reduceCtorEq, iff_false]
    omega

/-! ## Offsets on a character boundary -/

/-- The number of characters in the first `offset` bytes of the text.  There is none when the text
is shorter, or when the offset lies inside a character. -/
def charIndex? (offset : Nat) (cs : List Char) : Option Nat :=
  go 0 offset cs
where
  /-- Walks the text with `seen` characters behind and some bytes ahead. -/
  go (seen : Nat) : Nat → List Char → Option Nat
    | 0, _ => some seen
    | _ + 1, [] => none
    | n + 1, c :: cs =>
      if c.utf8Size ≤ n + 1 then go (seen + 1) (n + 1 - c.utf8Size) cs else none

/-- A prefix of the text ends on a boundary, after all of its characters. -/
theorem charIndex?_utf8Length (before after : List Char) :
    charIndex? (utf8Length before) (before ++ after) = some before.length := by
  suffices h : ∀ seen, charIndex?.go seen (utf8Length before) (before ++ after) =
      some (seen + before.length) by
    simpa [charIndex?] using h 0
  induction before with
  | nil => intro seen; simp [charIndex?.go]
  | cons c cs ih =>
    intro seen
    have hc := c.utf8Size_pos
    obtain ⟨n, hn⟩ : ∃ n, utf8Length (c :: cs) = n + 1 := ⟨utf8Length (c :: cs) - 1, by simp; omega⟩
    rw [hn, List.cons_append, charIndex?.go, if_pos (by simp at hn; omega)]
    rw [show n + 1 - c.utf8Size = utf8Length cs by simp at hn; omega, ih]
    simp only [List.length_cons, Option.some.injEq]
    omega

/-- The text from byte offset `start` up to byte offset `stop`.  There is none unless both lie on
boundaries of the text, in this order. -/
def slice? (start stop : Nat) (cs : List Char) : Option (List Char) := do
  let first ← charIndex? start cs
  let last ← charIndex? stop cs
  if start ≤ stop then some ((cs.take last).drop first) else none

/-- The text between the ends of two prefixes is what the longer one has in addition. -/
theorem slice?_append (before text after : List Char) :
    slice? (utf8Length before) (utf8Length before + utf8Length text) (before ++ text ++ after) =
      some text := by
  have hfirst := charIndex?_utf8Length before (text ++ after)
  have hlast := charIndex?_utf8Length (before ++ text) after
  rw [utf8Length_append] at hlast
  rw [← List.append_assoc] at hfirst
  simp only [slice?, hfirst, hlast, Option.bind_eq_bind, Option.bind_some, Nat.le_add_right,
    if_true, List.take_left, List.drop_left]

end Lexing.Text
