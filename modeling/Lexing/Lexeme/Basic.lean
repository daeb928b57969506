import Lexing.Item
import Lexing.Text.Utf8

/-!
# Lexemes

A lexeme is what is recognised at the front of a text: some of its characters and what they are.  It
knows nothing of the source that the text comes from.  `Lexeme.place` puts it there, and what it
makes is an item.
-/

namespace Lexing

/-- What a piece of text is: trivia, or a token of some kind. -/
inductive Shape where
  | trivia (kind : TriviaKind)
  | token (kind : Kind Fault)
deriving DecidableEq, Repr

/-- A piece of text and what it is. -/
structure Lexeme where
  shape : Shape
  text : List Char
deriving DecidableEq, Repr

namespace Lexeme

/-- The item that the lexeme makes where it starts in a source: on a line of a file, at a byte
offset. -/
def place (l : Lexeme) (file : String) (line : UInt32) (offset : Nat) : Item :=
  match l.shape with
  | .trivia kind => .trivia ⟨kind, String.ofList l.text, line⟩
  | .token kind =>
    .token ⟨kind.placed ⟨offset, file⟩, String.ofList l.text, line,
      Span.ofLength file offset (Text.utf8Length l.text)⟩

@[simp] theorem text_place (l : Lexeme) (file : String) (line : UInt32) (offset : Nat) :
    (l.place file line offset).text = String.ofList l.text := by
  rcases l with ⟨_ | _, _⟩ <;> rfl

@[simp] theorem line_place (l : Lexeme) (file : String) (line : UInt32) (offset : Nat) :
    (l.place file line offset).line = line := by
  rcases l with ⟨_ | _, _⟩ <;> rfl

/-- The items that lexemes make when they follow one another in a source.  Each starts where the one
before it ends, a line further down for each line feed in between. -/
def placeAll (file : String) (line : UInt32) (offset : Nat) (ls : List Lexeme) : List Item :=
  go [] line offset ls
where
  /-- Goes on behind the items `done`, which are reversed. -/
  go (done : List Item) (line : UInt32) (offset : Nat) : List Lexeme → List Item
    | [] => done.reverse
    | l :: ls =>
      go (l.place file line offset :: done) (line + UInt32.ofNat (l.text.count '\n'))
        (offset + Text.utf8Length l.text) ls

theorem placeAll_go (file : String) (done : List Item) (line : UInt32) (offset : Nat)
    (ls : List Lexeme) :
    placeAll.go file done line offset ls = done.reverse ++ placeAll file line offset ls := by
  induction ls generalizing done line offset with
  | nil => simp [placeAll, placeAll.go]
  | cons l ls ih =>
    rw [placeAll, placeAll.go, placeAll.go, ih, ih [_]]
    simp

@[simp] theorem placeAll_nil (file : String) (line : UInt32) (offset : Nat) :
    placeAll file line offset [] = [] := rfl

@[simp] theorem placeAll_cons (file : String) (line : UInt32) (offset : Nat) (l : Lexeme)
    (ls : List Lexeme) :
    placeAll file line offset (l :: ls) =
      l.place file line offset ::
        placeAll file (line + UInt32.ofNat (l.text.count '\n'))
          (offset + Text.utf8Length l.text) ls := by
  rw [placeAll, placeAll.go, placeAll_go]
  rfl

end Lexeme

end Lexing
