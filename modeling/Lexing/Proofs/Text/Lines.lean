import Lexing.Proofs.Text.Stretch
import Lexing.Text.Line
import Mathlib.Data.List.DropRight

/-!
# Looking a line up

The lookup of a line cuts the text into lines first and then counts their bytes.  Where the text
around the byte is known, neither has to be followed: if whole lines are above, and the byte is so
many bytes behind them, in the line that comes next, then this line is found (`lineAt?_eq_some`).
Its number is one more than the number of line feeds above.

`lineHead`, `lineTail` and `lineEnd` are the parts of a line that stand before and behind a place in
the text, and its line feed.  With them, `lineAt?_of_not_mem` has the line of any text that is not
empty and goes over no line feed.
-/

namespace Lexing.Text

variable {text line above below : List Char}

/-! ## Cutting a text into its lines -/

/-- The text is made of whole lines, each with its line feed. -/
inductive WholeLines : List Char → Prop
  | nil : WholeLines []
  | cons {text rest : List Char} (htext : '\n' ∉ text) (hrest : WholeLines rest) :
      WholeLines (text ++ '\n' :: rest)

theorem WholeLines.append {rest : List Char} (h : WholeLines above) (hrest : WholeLines rest) :
    WholeLines (above ++ rest) := by
  induction h with
  | nil => exact hrest
  | cons htext _ ih =>
    rw [List.append_assoc, List.cons_append]
    exact .cons htext ih

/-- `line` is the first line of a text that goes on with `below`: either it has its line feed, or
nothing is below. -/
inductive FirstLine : List Char → List Char → Prop
  | closed {text : List Char} (htext : '\n' ∉ text) (below : List Char) :
      FirstLine (text ++ ['\n']) below
  | last {text : List Char} (hne : text ≠ []) (htext : '\n' ∉ text) : FirstLine text []

theorem lines_go_done (done : List (List Char)) (current cs : List Char) :
    lines.go done current cs = done.reverse ++ lines.go [] current cs := by
  induction cs generalizing done current with
  | nil => cases current <;> simp [lines.go]
  | cons c cs ih =>
    rw [lines.go, lines.go]
    split
    · rw [ih, ih [_]]
      simp
    · exact ih done (c :: current)

theorem lines_go_of_not_mem (htext : '\n' ∉ text) (done : List (List Char))
    (current rest : List Char) :
    lines.go done current (text ++ rest) = lines.go done (text.reverse ++ current) rest := by
  induction text generalizing current with
  | nil => rfl
  | cons c text ih =>
    rw [List.mem_cons, not_or] at htext
    rw [List.cons_append, lines.go, if_neg (Ne.symm htext.1), ih htext.2, List.reverse_cons,
      List.append_assoc, List.singleton_append]

theorem lines_append_lineFeed (htext : '\n' ∉ text) (rest : List Char) :
    lines (text ++ '\n' :: rest) = (text ++ ['\n']) :: lines rest := by
  rw [lines, lines_go_of_not_mem htext, lines.go, if_pos rfl, lines_go_done]
  simp [lines]

theorem lines_of_not_mem (hne : text ≠ []) (htext : '\n' ∉ text) : lines text = [text] := by
  have hgo := lines_go_of_not_mem htext [] [] []
  rw [List.append_nil, List.append_nil] at hgo
  rw [lines, hgo, lines.go]
  simp [hne]

/-- Rows that are written one below the other are the lines of what is written. -/
theorem lines_flatMap_lineFeed {rows : List (List Char)} (hrows : ∀ row ∈ rows, '\n' ∉ row) :
    lines (rows.flatMap (· ++ ['\n'])) = rows.map (· ++ ['\n']) := by
  induction rows with
  | nil => rfl
  | cons row rows ih =>
    obtain ⟨hrow, hrows⟩ := List.forall_mem_cons.mp hrows
    rw [List.flatMap_cons, List.append_assoc, List.singleton_append, lines_append_lineFeed hrow,
      ih hrows, List.map_cons]

theorem FirstLine.lines_append (h : FirstLine line below) :
    lines (line ++ below) = line :: lines below := by
  cases h with
  | closed htext below =>
    rw [List.append_assoc, List.singleton_append, lines_append_lineFeed htext]
  | last hne htext => rw [List.append_nil, lines_of_not_mem hne htext]; rfl

theorem WholeLines.lines_append (h : WholeLines above) (rest : List Char) :
    lines (above ++ rest) = lines above ++ lines rest := by
  induction h with
  | nil => rfl
  | cons htext _ ih =>
    rw [List.append_assoc, List.cons_append, lines_append_lineFeed htext, ih,
      lines_append_lineFeed htext, List.cons_append]

theorem WholeLines.length_lines (h : WholeLines above) :
    (lines above).length = above.count '\n' := by
  induction h with
  | nil => rfl
  | cons htext _ ih =>
    rw [lines_append_lineFeed htext, List.length_cons, ih, List.count_append,
      List.count_eq_zero_of_not_mem htext, List.count_cons_self, Nat.zero_add]

/-! ## Counting the bytes of the lines -/

/-- A byte behind some lines is looked for among the lines below. -/
theorem findLine?_append (number offset : ℕ) (done ls : List (List Char)) :
    findLine? number (utf8Length done.flatten + offset) (done ++ ls) =
      findLine? (number + done.length) offset ls := by
  induction done generalizing number with
  | nil => simp
  | cons line done ih =>
    have hpast : ¬utf8Length line + utf8Length done.flatten + offset < utf8Length line := by omega
    have hoffset : utf8Length line + utf8Length done.flatten + offset - utf8Length line =
        utf8Length done.flatten + offset := by omega
    rw [List.flatten_cons, utf8Length_append, List.cons_append, findLine?, if_neg hpast, hoffset,
      ih, List.length_cons, Nat.add_right_comm, Nat.add_assoc]

/-- The byte at an offset behind whole lines is in the line that comes next, if this is long
enough. -/
theorem lineAt?_eq_some {offset : ℕ} (habove : WholeLines above) (hline : FirstLine line below)
    (hoffset : offset < utf8Length line) :
    lineAt? (String.ofList (above ++ (line ++ below))) (utf8Length above + offset) =
      some ⟨1 + above.count '\n', String.ofList line, offset⟩ := by
  have hfind := findLine?_append 1 offset (lines above) (line :: lines below)
  rw [flatten_lines, habove.length_lines] at hfind
  rw [lineAt?, String.toList_ofList, habove.lines_append, hline.lines_append, hfind, findLine?,
    if_pos hoffset]

/-! ## The line around a place -/

/-- What stands before a place on its line: the text behind the last line feed. -/
def lineHead (before : List Char) : List Char :=
  before.rtakeWhile (· ≠ '\n')

/-- What stands behind a place on its line: the text before the next line feed. -/
def lineTail (after : List Char) : List Char :=
  after.takeWhile (· ≠ '\n')

/-- The line feed that ends the line of a place, if there is one. -/
def lineEnd (after : List Char) : List Char :=
  (after.dropWhile (· ≠ '\n')).take 1

theorem not_mem_lineHead (before : List Char) : '\n' ∉ lineHead before := by
  intro hmem
  simpa using List.mem_rtakeWhile_imp hmem

theorem not_mem_lineTail (after : List Char) : '\n' ∉ lineTail after := by
  intro hmem
  simpa using List.mem_takeWhile_imp hmem

theorem lineEnd_cases (after : List Char) :
    (lineEnd after = [] ∧ after = lineTail after) ∨
      ∃ below, lineEnd after = ['\n'] ∧ after = lineTail after ++ '\n' :: below := by
  have hsplit : lineTail after ++ after.dropWhile (· ≠ '\n') = after :=
    List.takeWhile_append_dropWhile
  have hstops : StopsAt (· ≠ '\n') (after.dropWhile (· ≠ '\n')) := stopsAt_dropWhile after
  rw [lineEnd]
  cases h : after.dropWhile (· ≠ '\n') with
  | nil =>
    rw [h, List.append_nil] at hsplit
    exact .inl ⟨rfl, hsplit.symm⟩
  | cons c below =>
    rw [h] at hsplit hstops
    obtain rfl : c = '\n' := by simpa using hstops
    exact .inr ⟨below, rfl, hsplit.symm⟩

@[simp] theorem lineHead_append_lineFeed (before : List Char) :
    lineHead (before ++ ['\n']) = [] :=
  List.rtakeWhile_concat_neg _ _ _ (by simp)

theorem lineHead_append_of_ne (before : List Char) {c : Char} (hc : c ≠ '\n') :
    lineHead (before ++ [c]) = lineHead before ++ [c] :=
  List.rtakeWhile_concat_pos _ _ _ (by simpa using hc)

theorem exists_wholeLines (before : List Char) :
    ∃ above, WholeLines above ∧ before = above ++ lineHead before := by
  induction before using List.reverseRecOn with
  | nil => exact ⟨[], .nil, rfl⟩
  | append_singleton before c ih =>
    obtain ⟨above, habove, hbefore⟩ := ih
    by_cases hc : c = '\n'
    · subst hc
      have hlast : WholeLines (lineHead before ++ ['\n']) :=
        .cons (not_mem_lineHead before) .nil
      refine ⟨above ++ (lineHead before ++ ['\n']), habove.append hlast, ?_⟩
      rw [← List.append_assoc, ← hbefore, lineHead_append_lineFeed, List.append_nil]
    · refine ⟨above, habove, ?_⟩
      rw [lineHead_append_of_ne before hc, ← List.append_assoc, ← hbefore]

/-- A text of one line makes up a line with what stands before and behind it there. -/
theorem exists_firstLine (hne : text ≠ []) {head : List Char} (hhead : '\n' ∉ head)
    (htext : '\n' ∉ text) (after : List Char) :
    ∃ below, FirstLine (head ++ text ++ (lineTail after ++ lineEnd after)) below ∧
      after = lineTail after ++ lineEnd after ++ below := by
  have hline : '\n' ∉ head ++ text ++ lineTail after := by
    simp [hhead, htext, not_mem_lineTail]
  rcases lineEnd_cases after with ⟨hend, hafter⟩ | ⟨below, hend, hafter⟩
  · rw [hend, List.append_nil]
    exact ⟨[], .last (by simp [hne]) hline, by rw [List.append_nil, ← hafter]⟩
  · rw [hend, ← List.append_assoc]
    refine ⟨below, .closed hline below, ?_⟩
    rw [List.append_assoc, List.singleton_append, ← hafter]

/-- The line of a text that goes over no line feed, looked up at its first byte. -/
theorem lineAt?_of_not_mem (hne : text ≠ []) (htext : '\n' ∉ text) (before after : List Char) :
    lineAt? (String.ofList (before ++ (text ++ after))) (utf8Length before) =
      some ⟨1 + before.count '\n',
        String.ofList (lineHead before ++ text ++ (lineTail after ++ lineEnd after)),
        utf8Length (lineHead before)⟩ := by
  obtain ⟨above, habove, hbefore⟩ := exists_wholeLines before
  obtain ⟨below, hline, hafter⟩ := exists_firstLine hne (not_mem_lineHead before) htext after
  have hoffset : utf8Length (lineHead before) <
      utf8Length (lineHead before ++ text ++ (lineTail after ++ lineEnd after)) := by
    have hpos := mt utf8Length_eq_zero_iff.mp hne
    rw [utf8Length_append, utf8Length_append]
    omega
  have hcount : above.count '\n' = before.count '\n' := by
    conv_rhs => rw [hbefore, List.count_append,
      List.count_eq_zero_of_not_mem (not_mem_lineHead before)]
    rfl
  have hsource : before ++ (text ++ after) =
      above ++ (lineHead before ++ text ++ (lineTail after ++ lineEnd after) ++ below) := by
    rw [List.append_assoc (lineHead before ++ text), ← hafter, List.append_assoc,
      ← List.append_assoc above, ← hbefore]
  have hlength : utf8Length before = utf8Length above + utf8Length (lineHead before) := by
    rw [← utf8Length_append, ← hbefore]
  rw [hsource, hlength, lineAt?_eq_some habove hline hoffset, hcount]

end Lexing.Text
