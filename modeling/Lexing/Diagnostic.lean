import Lexing.Fault
import Lexing.Text.Line
import Lexing.Text.WhiteSpace

/-!
# Diagnostics

A diagnostic shows an error with the line of source that it is in.  Two lines name the error, its
tip and the file.  If the error lies in the source, a drawing of three rows follows: an empty row,
the line of source without its indentation, and a caret under the place of the error, at the end of
a row of dashes.

A drawing cannot always be made.  The caret stands under a character, so the error may not lie
inside one; and it can be moved to the right by so much only.

A drawing counts columns in characters.  The caret's column is counted from the end of the
indentation, and an error inside the indentation is drawn at its end.
-/

namespace Lexing

/-- Why an error cannot be drawn. -/
inductive Undrawable where
  /-- It lies inside a character of the source. -/
  | insideCharacter
  /-- It lies too far to the right. -/
  | caretTooFar
deriving DecidableEq, Repr

/-- A line of source with a caret under it. -/
structure Drawing where
  /-- The number of the line. -/
  number : Nat
  /-- The line, without indentation and without white space at its end. -/
  shown : List Char
  /-- The number of dashes in front of the caret. -/
  dashes : Nat
deriving DecidableEq, Repr

namespace Drawing

/-- The greatest width of the dashes and the caret together. -/
def widestCaret : Nat := 65535

/-- Draws the byte that the line was looked up for. -/
def ofLine (line : Text.Line) : Except Undrawable Drawing :=
  let text := line.text.toList
  match Text.charIndex? line.offset text with
  | none => .error .insideCharacter
  | some column =>
    let indentation := Text.indentation text
    let dashes := column - indentation
    if dashes + 1 ≤ widestCaret then
      .ok ⟨line.number, Text.trimEnd (text.drop indentation), dashes⟩
    else .error .caretTooFar

/-- The number as it stands left of the source. -/
def label (d : Drawing) : List Char := Nat.toDigits 10 d.number

/-- The bar that stands right of the number, where there is none: in the same column. -/
def bar (d : Drawing) : List Char := List.replicate (d.label.length + 1) ' ' ++ ['|']

/-- The row of the source. -/
def sourceRow (d : Drawing) : List Char := d.label ++ [' ', '|', ' '] ++ d.shown

/-- The row of the caret. -/
def caretRow (d : Drawing) : List Char := d.bar ++ [' '] ++ List.replicate d.dashes '-' ++ ['^']

/-- The rows, from top to bottom. -/
def rows (d : Drawing) : List (List Char) := [d.bar, d.sourceRow, d.caretRow]

end Drawing

namespace Diagnostic

/-- The line that names the error and gives its tip, if it has one. -/
def title (e : LexicalError) : List Char :=
  ("Error: " ++ e.fault.name ++
    match e.fault.tip with
    | .none => ""
    | tip => " (" ++ tip.text ++ ")").toList

/-- The line that names the file. -/
def origin (e : LexicalError) : List Char := ("-> " ++ e.position.file).toList

/-- Rows one below the other, each with a line feed at its end. -/
def stack (rows : List (List Char)) : String :=
  String.ofList (rows.flatMap (· ++ ['\n']))

/-- The diagnostic of an error in a source.  An error at or past the end is not drawn. -/
def render (e : LexicalError) (source : String) : Except Undrawable String :=
  match Text.lineAt? source e.position.offset with
  | none => .ok (stack [title e, origin e])
  | some line => (Drawing.ofLine line).map fun d => stack ([title e, origin e] ++ d.rows)

end Diagnostic

end Lexing
