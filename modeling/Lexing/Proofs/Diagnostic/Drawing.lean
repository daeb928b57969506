import Lexing.CommandLine.Listing
import Lexing.Proofs.Scan.LineLookup

/-!
# Which errors can be drawn

The diagnostic of an error shows the line where its token starts, and a caret below.  Of the two
obstacles to a drawing, a scan meets only one.  A token starts between characters, so its error
never lies inside one; but nothing bounds the length of a line, and an error far to the right has a
caret that is too wide.

`Drawing.ofLine_eq` draws a place on a line, given what stands before it and behind it, and
`render_of_items_eq` is the diagnostic of any error token.  From it `error_drawn_iff` has the exact
condition under which there is a diagnostic, and under which the program breaks off.
-/

namespace Lexing

open Text

/-! ## Drawing a place on a line -/

theorem isLayout_of_isIndent {c : Char} (h : isIndent c = true) : Lexeme.isLayout c = true := by
  simp only [isIndent, Bool.or_eq_true, decide_eq_true_eq] at h
  rcases h with rfl | rfl <;> rfl

theorem trimEnd_append_lineEnd (cs after : List Char) :
    trimEnd (cs ++ lineEnd after) = trimEnd cs := by
  rcases lineEnd_cases after with ⟨hend, -⟩ | ⟨_, hend, -⟩
  · rw [hend, List.append_nil]
  · rw [hend]
    exact List.rdropWhile_concat_pos _ _ _ rfl

namespace Drawing

/-- The width of a caret below the place behind `before`: one dash for each character between the
indentation and the place, and the caret. -/
def caretWidth (before : List Char) : ℕ :=
  ((lineHead before).dropWhile isIndent).length + 1

/-- A place on a line is drawn unless it is too far to the right, if no indentation stands behind
it. -/
theorem ofLine_eq (number : ℕ) (head : List Char) {rest : List Char}
    (hrest : StopsAt isIndent rest) :
    ofLine ⟨number, String.ofList (head ++ rest), utf8Length head⟩ =
      if (head.dropWhile isIndent).length + 1 ≤ widestCaret then
        .ok ⟨number, trimEnd (head.dropWhile isIndent ++ rest), (head.dropWhile isIndent).length⟩
      else .error .caretTooFar := by
  obtain ⟨indent, shown, rfl, hindent, hshown⟩ := exists_stretch isIndent head
  have hindentation : indentation (indent ++ (shown ++ rest)) = indent.length := by
    rw [indentation, takeWhile_append_of_stopsAt hindent (hshown.append hrest)]
  have hcolumn : charIndex? (utf8Length (indent ++ shown)) (indent ++ (shown ++ rest)) =
      some (indent.length + shown.length) := by
    rw [← List.append_assoc, charIndex?_utf8Length, List.length_append]
  rw [dropWhile_append_of_stopsAt hindent hshown]
  simp only [ofLine, String.toList_ofList, List.append_assoc, hcolumn, hindentation,
    List.drop_left, Nat.add_sub_cancel_left]

/-- The drawing of a lexeme between the text before it and the text behind it. -/
def ofLexeme (before lexeme after : List Char) : Drawing where
  number := 1 + before.count '\n'
  shown := trimEnd ((lineHead before).dropWhile isIndent ++ lexeme ++ lineTail after)
  dashes := ((lineHead before).dropWhile isIndent).length

end Drawing

namespace Scanner

variable {source : String} {file : Option String} {policy : Policy} {before after : List Item}
  {t : Token} {e : LexicalError}

/-- The diagnostic of an error token: the line around its lexeme, with a caret below, unless this is
too wide. -/
theorem render_of_items_eq
    (h : (start source file policy).items = before ++ .token t :: after)
    (he : t.error? = some e) :
    Diagnostic.render e source =
      if Drawing.caretWidth (Item.textOf before) ≤ Drawing.widestCaret then
        .ok (Diagnostic.stack ([Diagnostic.title e, Diagnostic.origin e] ++
          (Drawing.ofLexeme (Item.textOf before) t.lexeme.toList (Item.textOf after)).rows))
      else .error .caretTooFar := by
  obtain ⟨_, hfront⟩ := exists_front_of_mem_items (mem_of_items_eq h)
  have hrest : StopsAt isIndent (t.lexeme.toList ++
      (lineTail (Item.textOf after) ++ lineEnd (Item.textOf after))) := by
    intro c hc
    by_contra hindent
    have hlayout := hfront.stopsAt_isLayout _ c hc
    rw [isLayout_of_isIndent (by simpa using hindent)] at hlayout
    cases hlayout
  rw [Diagnostic.render, (pulls_of_items_eq h).token_of_start.2 e he, lineAt?_of_items_eq h]
  simp only [List.append_assoc, Drawing.ofLine_eq _ _ hrest]
  rw [← Drawing.caretWidth]
  split
  · rw [← List.append_assoc, ← List.append_assoc, trimEnd_append_lineEnd]
    rfl
  · rfl

/-- Whether an error token can be drawn depends on the width of its caret alone. -/
theorem exists_render_iff (h : (start source file policy).items = before ++ .token t :: after)
    (he : t.error? = some e) :
    (∃ text, Diagnostic.render e source = .ok text) ↔
      Drawing.caretWidth (Item.textOf before) ≤ Drawing.widestCaret := by
  rw [render_of_items_eq h he]
  split
  · next hwidth => exact iff_of_true ⟨_, rfl⟩ hwidth
  · next hwidth =>
    refine iff_of_false ?_ hwidth
    rintro ⟨text, htext⟩
    cases htext

end Scanner

namespace CommandLine.Listing

open Scanner

variable {source : String}

theorem complaint_eq_error_iff {item : Item} {why : Undrawable} :
    complaint source item = .error why ↔
      ∃ t e, item = .token t ∧ t.error? = some e ∧ Diagnostic.render e source = .error why := by
  cases item with
  | trivia trivia => simp [complaint, error?, Item.token?]
  | token t =>
    cases he : t.error? with
    | none => simp [complaint, error?, Item.token?, he]
    | some e =>
      cases hrender : Diagnostic.render e source <;>
        simp [complaint, error?, Item.token?, he, hrender]

/-- A listing breaks off exactly if there is something that it cannot complain of. -/
theorem status_extend_eq_aborted_iff (log : Log) (comments : Bool) (so : SoFar) (s : Scanner) :
    (extend log comments source so s).status = .aborted ↔
      ∃ item ∈ s.items, ∃ why, complaint source item = .error why := by
  fun_induction extend log comments source so s with
  | case1 so s hnone =>
    rw [items_of_nextItem?_eq_none hnone, SoFar.outcome]
    simp only [List.not_mem_nil, false_and, exists_false, iff_false]
    split <;> decide
  | case2 so s item next hnext outcome htake =>
    rw [items_eq_cons_of_nextItem? hnext]
    cases hitem : complaint source item with
    | ok text => simp [take, hitem] at htake
    | error why =>
      simp only [take, hitem, Except.error.injEq] at htake
      simp [← htake, hitem]
  | case3 so s item next hnext so' htake ih =>
    rw [items_eq_cons_of_nextItem? hnext, ih]
    cases hitem : complaint source item with
    | error why => simp [take, hitem] at htake
    | ok text => simp [hitem]

/-- A listing breaks off exactly if there is an error token with a caret that is too wide. -/
theorem status_ofSource_eq_aborted_iff (log : Log) (options : Options) (name : String) :
    (ofSource log options name source).status = .aborted ↔
      ∃ before t after,
        (start source (some name) options.policy).items = before ++ .token t :: after ∧
          t.error?.isSome = true ∧
          Drawing.widestCaret < Drawing.caretWidth (Item.textOf before) := by
  rw [ofSource, status_extend_eq_aborted_iff]
  constructor
  · rintro ⟨item, hitem, why, hwhy⟩
    obtain ⟨t, e, rfl, he, hrender⟩ := complaint_eq_error_iff.mp hwhy
    obtain ⟨before, after, hitems⟩ := List.append_of_mem hitem
    refine ⟨before, t, after, hitems, by rw [he]; rfl, ?_⟩
    by_contra hwidth
    obtain ⟨text, htext⟩ := (exists_render_iff hitems he).mpr (by omega)
    rw [htext] at hrender
    cases hrender
  · rintro ⟨before, t, after, hitems, hsome, hwidth⟩
    obtain ⟨e, he⟩ := Option.isSome_iff_exists.mp hsome
    refine ⟨.token t, mem_of_items_eq hitems, .caretTooFar, complaint_eq_error_iff.mpr ?_⟩
    refine ⟨t, e, rfl, he, ?_⟩
    rw [render_of_items_eq hitems he, if_neg (by omega)]

end CommandLine.Listing

namespace Scanner

open CommandLine

/-- **An error is drawn unless its caret is too wide.**  There is a diagnostic of an error token
exactly if the characters between the indentation of its line and its lexeme, and the caret, do not
take more than `Drawing.widestCaret` columns.  The program breaks off exactly if the source has an
error token with more of them. -/
theorem error_drawn_iff (source : String) :
    (∀ (file : Option String) (policy : Policy) before t after e,
      (start source file policy).items = before ++ .token t :: after → t.error? = some e →
        ((∃ text, Diagnostic.render e source = .ok text) ↔
          Drawing.caretWidth (Item.textOf before) ≤ Drawing.widestCaret)) ∧
    ∀ (log : Log) (options : Options) (name : String),
      (Listing.ofSource log options name source).status = .aborted ↔
        ∃ before t after,
          (start source (some name) options.policy).items = before ++ .token t :: after ∧
            t.error?.isSome = true ∧
            Drawing.widestCaret < Drawing.caretWidth (Item.textOf before) := by
  constructor
  · intro file policy before t after e hitems he
    exact exists_render_iff hitems he
  · exact Listing.status_ofSource_eq_aborted_iff

/-- The unknown character is drawn five columns behind the tab. -/
theorem error_drawn_iff_indented :
    ∃ before t after e, (start "\t\"é\" @" none .strict).items = before ++ .token t :: after ∧
      t.error? = some e ∧ Drawing.caretWidth (Item.textOf before) = 5 ∧
      ((∃ text, Diagnostic.render e "\t\"é\" @" = .ok text) ↔
        Drawing.caretWidth (Item.textOf before) ≤ Drawing.widestCaret) := by
  have hitems : (start "\t\"é\" @" none .strict).items =
      [.trivia ⟨.whitespace, "\t", 1⟩,
        .token ⟨.string "é", "\"é\"", 1, ⟨⟨1, "<input>"⟩, ⟨5, "<input>"⟩⟩⟩,
        .trivia ⟨.whitespace, " ", 1⟩] ++
      .token ⟨.error ⟨.unknownCharacter '@', ⟨6, "<input>"⟩⟩, "@", 1,
        ⟨⟨6, "<input>"⟩, ⟨7, "<input>"⟩⟩⟩ :: [] := by decide +kernel
  exact ⟨_, _, _, _, hitems, rfl, by decide,
    (error_drawn_iff "\t\"é\" @").1 none .strict _ _ _ _ hitems rfl⟩

theorem exists_items_of_long_word (n : ℕ) :
    ∃ before t e,
      (start (String.ofList (List.replicate (n + 1) 'a' ++ ['@'])) none .strict).items =
          before ++ .token t :: [] ∧
        t.error? = some e ∧ Item.textOf before = List.replicate (n + 1) 'a' := by
  have hword : Lexeme.Front .strict ⟨.token (Lexeme.wordKind .strict ('a' :: List.replicate n 'a')),
      'a' :: List.replicate n 'a'⟩ ['@'] := by
    refine .word rfl ?_ (stopsAt_cons.mpr rfl)
    intro c hc
    rw [List.eq_of_mem_replicate hc]
    rfl
  have hunknown : Lexeme.Front .strict ⟨.token (.error (.unknownCharacter '@')), ['@']⟩ [] :=
    .unknown ⟨rfl, rfl, rfl, by decide⟩ rfl stopsAt_nil
  have hlexemes : Lexeme.lexemes .strict (List.replicate (n + 1) 'a' ++ ['@']) = _ :=
    (Lexeme.IsDivision.cons hword (.cons hunknown .nil)).lexemes_textOf
  have hitems := items_start (String.ofList (List.replicate (n + 1) 'a' ++ ['@'])) none .strict
  rw [String.toList_ofList, hlexemes, Lexeme.placeAll_cons, Lexeme.placeAll_cons,
    Lexeme.placeAll_nil] at hitems
  refine ⟨[_], _, _, hitems, rfl, ?_⟩
  rw [Item.textOf_cons, Lexeme.text_place, String.toList_ofList, Item.textOf_nil, List.append_nil]
  rfl

/-- A word has no line feed and no indentation, so all of it is left of a caret behind it. -/
theorem caretWidth_of_long_word (n : ℕ) :
    Drawing.caretWidth (List.replicate n 'a') = n + 1 := by
  have hhead : lineHead (List.replicate n 'a') = List.replicate n 'a' := by
    refine List.rtakeWhile_eq_self_iff.mpr fun c hc => ?_
    rw [List.eq_of_mem_replicate hc]
    rfl
  have hdrop : (List.replicate n 'a').dropWhile isIndent = List.replicate n 'a' :=
    List.dropWhile_eq_self_iff.mpr fun hpos => by simp [isIndent]
  rw [Drawing.caretWidth, hhead, hdrop, List.length_replicate]

/-- An error that a scan finds, and that has no diagnostic. -/
theorem error_not_drawn_behind_long_word :
    ∃ t ∈ tokenize (String.ofList (List.replicate 65535 'a' ++ ['@'])) none .strict,
      ∃ e, t.error? = some e ∧
        Diagnostic.render e (String.ofList (List.replicate 65535 'a' ++ ['@'])) =
          .error .caretTooFar := by
  obtain ⟨before, t, e, hitems, he, hbefore⟩ := exists_items_of_long_word 65534
  have hwidth : ¬Drawing.caretWidth (Item.textOf before) ≤ Drawing.widestCaret := by
    rw [hbefore, caretWidth_of_long_word]
    decide
  refine ⟨t, mem_tokenize.mpr (mem_of_items_eq hitems), e, he, ?_⟩
  rw [render_of_items_eq hitems he, if_neg hwidth]

end Scanner

end Lexing
