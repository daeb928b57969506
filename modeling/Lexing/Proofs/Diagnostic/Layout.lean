import Lexing.Diagnostic
import Lexing.Proofs.Text.LineOfByte

/-!
# The exact text of a diagnostic

A diagnostic is asked for any error and any source; the error need not come from a scan of this
source, and its place may be anywhere.  This module says which text comes out, character by
character and for all places, and for which places none does.

The text is given by two functions that know nothing of rows and drawings: `Diagnostic.heading` for
the two lines at the top, and `Diagnostic.picture` for the three lines below, where the bar and the
caret are set to the right of a field of given width, filled up with spaces or dashes.  What decides
between the cases is the line of the byte at which the error is (`Text.LineOfByte`), and whether
this byte starts a character.

`render_exact` puts the cases together.  A place in the indentation of its line, or in the line feed
at its end, is no special case.
-/

namespace Lexing

open Text

namespace Diagnostic

/-! ## What is written -/

/-- The two lines at the top of every diagnostic: the error with its tip, and the file. -/
def heading (e : LexicalError) : String :=
  "Error: " ++ e.fault.name ++ " (" ++ e.fault.tip.text ++ ")" ++ "\n" ++
    "-> " ++ e.position.file ++ "\n"

/-- The three lines below them, for an error behind `column` characters of a line: an empty one, the
line without the blanks at its start and the white space at its end, and one with the caret.  Blanks
count for nothing in the caret's column. -/
def picture (number : ℕ) (line : List Char) (column : ℕ) : String :=
  let digits := toString number
  let bar := String.ofList (List.leftpad (digits.length + 2) ' ' ['|'])
  let shown := String.ofList ((line.drop (indentation line)).rdropWhile isWhiteSpace)
  let caret := String.ofList (List.leftpad (column - indentation line + 1) '-' ['^'])
  bar ++ "\n" ++ digits ++ " | " ++ shown ++ "\n" ++ bar ++ " " ++ caret ++ "\n"

/-! ## The rows are what is written -/

/-- Every fault has a tip, and the title gives it. -/
theorem title_eq (e : LexicalError) :
    title e = ("Error: " ++ e.fault.name ++ " (" ++ e.fault.tip.text ++ ")").toList := by
  unfold title
  rcases e with ⟨fault, position⟩
  cases fault with
  | malformedNumber lexeme issue => cases issue <;> rfl
  | _ => rfl

theorem stack_cons (row : List Char) (rows : List (List Char)) :
    stack (row :: rows) = String.ofList row ++ "\n" ++ stack rows := by
  rw [stack, List.flatMap_cons, String.ofList_append, String.ofList_append]
  rfl

theorem stack_heading (e : LexicalError) (rows : List (List Char)) :
    stack ([title e, origin e] ++ rows) = heading e ++ stack rows := by
  rw [List.cons_append, List.singleton_append, stack_cons, stack_cons, title_eq, origin,
    String.ofList_toList, String.ofList_toList, heading]
  simp only [String.append_assoc]

theorem stack_rows (number : ℕ) (line : List Char) (column : ℕ) :
    stack (Drawing.rows ⟨number, trimEnd (line.drop (indentation line)),
      column - indentation line⟩) = picture number line column := by
  have hdigits : toString number = String.ofList (Nat.toDigits 10 number) := rfl
  have hbar : ∀ n, List.leftpad (n + 2) ' ' ['|'] = List.replicate (n + 1) ' ' ++ ['|'] := by
    intro n
    rw [List.leftpad, List.length_singleton, show n + 2 - 1 = n + 1 by omega]
  have hcaret : ∀ n, List.leftpad (n + 1) '-' ['^'] = List.replicate n '-' ++ ['^'] := by
    intro n
    rw [List.leftpad, List.length_singleton, Nat.add_sub_cancel]
  have hshown : ∀ cs, List.rdropWhile isWhiteSpace cs = trimEnd cs := fun _ => rfl
  rw [picture, hdigits, String.length_ofList, hbar, hcaret, hshown, Drawing.rows, stack_cons,
    stack_cons, stack_cons]
  simp only [Drawing.sourceRow, Drawing.caretRow, Drawing.bar, Drawing.label, String.ofList_append,
    String.append_assoc]
  rfl

/-- An error behind eight characters of the third line. -/
example : picture 3 "int x = @;\n".toList 8 = "  |\n3 | int x = @;\n  | --------^\n" := by
  decide +kernel

/-! ## Which case applies -/

variable {e : LexicalError} {source : String} {above line below : List Char}

theorem render_of_le (h : source.utf8ByteSize ≤ e.position.offset) :
    render e source = .ok (heading e) := by
  have hstack := stack_heading e []
  have hnil : stack [] = "" := rfl
  rw [List.append_nil, hnil, String.append_empty] at hstack
  rw [render, lineAt?_eq_none h, hstack]

theorem render_of_inside (h : LineOfByte source.toList e.position.offset above line below)
    (hinside : InsideCharacter e.position.offset source.toList) :
    render e source = .error .insideCharacter := by
  have hindex := h.charIndex?_of_inside hinside
  rw [render, h.lineAt?_eq]
  simp only [Drawing.ofLine, String.toList_ofList, hindex]
  rfl

/-- An error that starts a character is drawn, unless the caret is too far to the right. -/
theorem render_of_boundary (h : LineOfByte source.toList e.position.offset above line below)
    {head rest : List Char} (hline : line = head ++ rest)
    (hoffset : utf8Length above + utf8Length head = e.position.offset) :
    render e source =
      if head.length - indentation line + 1 ≤ 65535 then
        .ok (heading e ++ picture (1 + (above ++ head).count '\n') line head.length)
      else .error .caretTooFar := by
  have hindex : charIndex? (e.position.offset - utf8Length above) line = some head.length := by
    rw [hline, ← hoffset, Nat.add_sub_cancel_left, charIndex?_utf8Length]
  rw [render, h.lineAt?_eq]
  simp only [Drawing.ofLine, String.toList_ofList, hindex, Drawing.widestCaret]
  split
  · rw [Except.map, stack_heading, stack_rows, h.count_of_boundary hline hoffset]
  · rfl

end Diagnostic

end Lexing
