import Lexing.Proofs.Scan.Pulls

/-!
# The items of a source tile it

A scan ends, and its items lie in the source one next to the other: none is empty, together they are
the source, and every token knows its own bytes.  `Tiles` collects what that means, and
`items_tile` proves it of the only run that a fresh scanner has up to the end.

The same statement covers what could stop a scan on its way.  All cuts are made between places that
the cursor comes to, and there they succeed; the line counter counts without wrapping, as long as
the source has fewer than `UInt32.size - 1` line feeds; and a scanner at the end answers every
further call in the same way and stays there.
-/

namespace Lexing

theorem Item.toList_join_text (items : List Item) :
    (String.join (items.map Item.text)).toList = Item.textOf items := by
  rw [String.toList_join, List.flatMap_map, Item.textOf]

/-- The number of bytes that items take together. -/
def Item.bytesOf (items : List Item) : ℕ :=
  (String.join (items.map Item.text)).utf8ByteSize

theorem Item.utf8Length_textOf (items : List Item) :
    Text.utf8Length (Item.textOf items) = Item.bytesOf items := by
  rw [← Item.toList_join_text, Text.utf8Length_toList, Item.bytesOf]

/-- The items lie in the source of a file one next to the other, without gap and overlap, and every
token carries its place. -/
structure Tiles (items : List Item) (source file : String) : Prop where
  /-- Every item has some of the text. -/
  text_ne_empty : ∀ item ∈ items, item.text ≠ ""
  /-- Together the items have all of it. -/
  join_text : String.join (items.map Item.text) = source
  /-- The span of a token starts behind all items before it and is as long as its lexeme. -/
  span_eq : ∀ before t after, items = before ++ Item.token t :: after →
    t.span = ⟨⟨Item.bytesOf before, file⟩, ⟨Item.bytesOf before + t.lexeme.utf8ByteSize, file⟩⟩
  /-- What the span cuts out of the source is the lexeme. -/
  slice_span : ∀ t, Item.token t ∈ items →
    (Cursor.start source).slice? t.span.start.offset t.span.stop.offset = some t.lexeme
  /-- An error is where its token starts. -/
  error_position : ∀ t e, Item.token t ∈ items → t.error? = some e → e.position = t.span.start

/-- A token has the span of its text, and an error the place where that starts. -/
theorem Lexeme.token_of_place {l : Lexeme} {file : String} {line : UInt32} {offset : ℕ} {t : Token}
    (h : l.place file line offset = .token t) :
    t.span = ⟨⟨offset, file⟩, ⟨offset + t.lexeme.utf8ByteSize, file⟩⟩ ∧
      ∀ e, t.error? = some e → e.position = t.span.start := by
  rcases l with ⟨kind | kind, text⟩
  case trivia => simp [Lexeme.place] at h
  case token =>
    obtain rfl := Item.token.inj h
    refine ⟨by rw [Text.utf8ByteSize_ofList]; rfl, fun e he => ?_⟩
    -- the error of a kind that was placed is a fault at the position of placing
    simp only [Token.error?, Kind.placed, Kind.error?_map, Option.map_eq_some_iff] at he
    obtain ⟨fault, -, rfl⟩ := he
    rfl

namespace Scanner

variable {s t : Scanner} {item : Item} {items : List Item}

theorem Pulls.text_ne_empty (h : Pulls s items t) : ∀ item ∈ items, item.text ≠ "" := by
  induction h with
  | nil s => simp
  | cons hnext _ ih =>
    intro i hi
    rcases List.mem_cons.mp hi with rfl | hi
    · exact text_ne_empty_of_nextItem? hnext
    · exact ih i hi

theorem Pulls.length_le (h : Pulls s items t) : items.length ≤ s.cursor.rest.length := by
  induction h with
  | nil s => simp
  | cons hnext _ ih =>
    have hlt := length_rest_lt_of_nextItem? hnext
    simp only [List.length_cons]
    omega

theorem token_of_nextItem? {behind : List Char} {next : Scanner} {token : Token}
    (h : s.nextItem? = some (.token token, next)) (hs : s.cursor.Behind behind) :
    token.span = ⟨⟨Text.utf8Length behind, s.file⟩,
        ⟨Text.utf8Length behind + token.lexeme.utf8ByteSize, s.file⟩⟩ ∧
      ∀ e, token.error? = some e → e.position = token.span.start := by
  obtain ⟨l, -, hplace, -⟩ := nextItem?_eq_some_iff.mp h
  rw [← hs.offset_eq]
  exact Lexeme.token_of_place hplace.symm

section Start

variable {source : String} {file : Option String} {policy : Policy}

/-- Every token of a run from the start has the span that its place among the items gives it. -/
theorem Pulls.token_of_start {before after : List Item} {token : Token}
    (h : Pulls (start source file policy) (before ++ .token token :: after) t) :
    token.span = ⟨⟨Item.bytesOf before, file.getD unnamed⟩,
        ⟨Item.bytesOf before + token.lexeme.utf8ByteSize, file.getD unnamed⟩⟩ ∧
      ∀ e, token.error? = some e → e.position = token.span.start := by
  obtain ⟨m, m', hbefore, hm, -⟩ := h.exists_of_append_cons
  have htoken := token_of_nextItem? hm hbefore.behind_of_start
  rwa [Item.utf8Length_textOf, hbefore.file_eq] at htoken

/-- The span that a place among the items gives is the one that cuts the lexeme out. -/
theorem slice?_of_textOf {before after : List Item} {token : Token}
    (h : Item.textOf (before ++ .token token :: after) = source.toList) :
    (Cursor.start source).slice? (Item.bytesOf before)
      (Item.bytesOf before + token.lexeme.utf8ByteSize) = some token.lexeme := by
  have hsource : source.toList =
      Item.textOf before ++ token.lexeme.toList ++ Item.textOf after := by
    rw [← h, Item.textOf_append, Item.textOf_cons, List.append_assoc]
    rfl
  have hslice := Text.slice?_append (Item.textOf before) token.lexeme.toList (Item.textOf after)
  rw [← hsource, Item.utf8Length_textOf, Text.utf8Length_toList] at hslice
  rw [Cursor.slice?, Cursor.start, hslice, Option.map_some, String.ofList_toList]

theorem Pulls.tiles (h : Pulls (start source file policy) items t) (hdone : t.nextItem? = none) :
    Tiles items source (file.getD unnamed) := by
  have htext : Item.textOf items = source.toList := by
    have hrest := h.rest_eq
    rw [nextItem?_eq_none_iff.mp hdone, List.append_nil] at hrest
    exact hrest.symm
  refine ⟨h.text_ne_empty, ?_, fun before token after hitems => ?_, fun token htoken => ?_,
    fun token e htoken he => ?_⟩
  · rw [← String.toList_inj, Item.toList_join_text, htext]
  · exact (Pulls.token_of_start (hitems ▸ h)).1
  · obtain ⟨before, after, rfl⟩ := List.append_of_mem htoken
    rw [h.token_of_start.1]
    exact slice?_of_textOf htext
  · obtain ⟨before, after, rfl⟩ := List.append_of_mem htoken
    exact h.token_of_start.2 e he

end Start

/-! ## The end, and what could stop a scan before it -/

theorem run_replicate_nextItem (h : s.nextItem? = none) (kept : List Scanner) (n : ℕ) :
    Session.run ⟨s, kept⟩ (List.replicate n .nextItem) =
      List.replicate n (.item none, ⟨s, kept⟩) := by
  induction n with
  | zero => rfl
  | succ n ih =>
    have hanswer : Session.answer ⟨s, kept⟩ .nextItem = (.item none, ⟨s, kept⟩) := by
      simp only [Session.answer, h]
    rw [List.replicate_succ, List.replicate_succ, Session.run, hanswer, ih]

/-- Whatever a scanner may cut on its way to any place ahead can be cut, and up to there its line
counter has not wrapped. -/
theorem Pulls.safe {source : String} {file : Option String} {policy : Policy}
    (hlines : source.toList.count '\n' < UInt32.size - 1)
    (h : Pulls (start source file policy) items t) {m n : ℕ} (hmn : m ≤ n) :
    t.cursor.slice? (t.cursor.advanceBy m).offset (t.cursor.advanceBy n).offset =
        some (String.ofList ((t.cursor.rest.take n).drop m)) ∧
      (t.cursor.advanceBy n).line.toNat =
        1 + (Item.textOf items ++ t.cursor.rest.take n).count '\n' := by
  have hbehind := h.behind_of_start
  have hn := hbehind.advanceBy n
  refine ⟨hbehind.slice?_advanceBy hmn, hn.line_toNat (Nat.lt_of_le_of_lt hn.count_le ?_)⟩
  rw [Cursor.source_advanceBy, h.eq_advanceBy, Cursor.source_advanceBy]
  exact hlines

/-- **Exact tiling.**  Pulling items from a fresh scanner comes to an end, in one way only and after
no more items than the source has characters, and the items tile the source.  On the way no cut is
refused and the line counter does not wrap; at the end every further call finds nothing and changes
nothing. -/
theorem items_tile (source : String) (file : Option String) (policy : Policy)
    (hlines : source.toList.count '\n' < UInt32.size - 1) :
    (∀ items t, Pulls (start source file policy) items t ∧ t.nextItem? = none ↔
        items = (start source file policy).items ∧ t = (start source file policy).atEnd) ∧
      (start source file policy).items.length ≤ source.length ∧
      Tiles (start source file policy).items source (file.getD unnamed) ∧
      (∀ items t, Pulls (start source file policy) items t → ∀ m n, m ≤ n →
        t.cursor.slice? (t.cursor.advanceBy m).offset (t.cursor.advanceBy n).offset =
            some (String.ofList ((t.cursor.rest.take n).drop m)) ∧
          (t.cursor.advanceBy n).line.toNat =
            1 + (Item.textOf items ++ t.cursor.rest.take n).count '\n') ∧
      (∀ kept n, Session.run ⟨(start source file policy).atEnd, kept⟩
          (List.replicate n .nextItem) =
        List.replicate n (.item none, ⟨(start source file policy).atEnd, kept⟩)) := by
  have hrun := pulls_items (start source file policy)
  have hdone := nextItem?_atEnd (start source file policy)
  refine ⟨fun items t => pulls_and_nextItem?_eq_none_iff, ?_, hrun.tiles hdone,
    fun items t h m n hmn => h.safe hlines hmn, fun kept n => run_replicate_nextItem hdone kept n⟩
  have hlength := hrun.length_le
  rwa [show (start source file policy).cursor.rest = source.toList from rfl,
    String.length_toList] at hlength

/-- A source with a character of two bytes and a string literal that its line does not close. -/
theorem items_tile_open_string :
    "é \"\\x4\n5b".toList.count '\n' < UInt32.size - 1 ∧
      Tiles (start "é \"\\x4\n5b" none .strict).items "é \"\\x4\n5b" "<input>" :=
  ⟨by decide, (items_tile _ none .strict (by decide)).2.2.1⟩

end Scanner

end Lexing
