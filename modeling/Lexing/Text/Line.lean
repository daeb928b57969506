import Lexing.Text.Utf8

/-!
# The lines of a text

A line ends with its line feed, which belongs to it; only the last line may lack one.  `lines` cuts
a text into its lines, and `lineAt?` finds the line that holds a given byte.  The lookup asks for a
byte, not for a character: an offset inside a character is as good as any other, and the only
offsets without a line are those at or past the end.
-/

namespace Lexing.Text

/-- The lines of a text, each with its line feed.  No line is empty. -/
def lines (cs : List Char) : List (List Char) :=
  go [] [] cs
where
  /-- Walks the text with the finished lines and the unfinished one behind, both reversed. -/
  go (done : List (List Char)) (current : List Char) : List Char → List (List Char)
    | [] => (if current.isEmpty then done else current.reverse :: done).reverse
    | c :: cs =>
      if c = '\n' then go ((c :: current).reverse :: done) [] cs else go done (c :: current) cs

theorem flatten_lines_go (done : List (List Char)) (current cs : List Char) :
    (lines.go done current cs).flatten = done.reverse.flatten ++ current.reverse ++ cs := by
  induction cs generalizing done current with
  | nil =>
    cases current with
    | nil => simp [lines.go]
    | cons c current => simp [lines.go]
  | cons c cs ih =>
    rw [lines.go]
    split <;> simp [ih]

theorem flatten_lines (cs : List Char) : (lines cs).flatten = cs := by
  simp [lines, flatten_lines_go]

/-- Where a byte stands: the number of its line, counted from 1, the line's text with its line feed,
and the byte's offset in the line. -/
structure Line where
  number : Nat
  text : String
  offset : Nat
deriving DecidableEq, Repr

/-- Searches numbered lines for the one that holds the byte at `offset` from the first of them. -/
def findLine? (number offset : Nat) : List (List Char) → Option Line
  | [] => none
  | line :: rest =>
    if offset < utf8Length line then some ⟨number, String.ofList line, offset⟩
    else findLine? (number + 1) (offset - utf8Length line) rest

/-- The line that holds the byte at `offset`, or none from the end of the text on. -/
def lineAt? (content : String) (offset : Nat) : Option Line :=
  findLine? 1 offset (lines content.toList)

end Lexing.Text
