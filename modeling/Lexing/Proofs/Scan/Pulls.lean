import Lexing.Proofs.Scan.Behind
import Lexing.Scanner.Session

/-!
# Runs of a scanner

`s.Pulls items t` says that pulling items from the scanner `s`, one after the other, gives `items`
and leads to the scanner `t`.  It is the notion of a place that a scan reaches: the scanner of such
a place is some `t` for which `Scanner.start source file policy` pulls some items and leads to `t`.

One pull is described by `nextItem?_eq_some_iff`.  It keeps the file and the policy, and moves the
text of the item from ahead of the cursor to behind it; `Pulls.cursor_behind` has the same for whole
runs.  What is still to come is determined: `Pulls.items_eq` says that a run gives the first of the
items ahead and leaves the others, and `pulls_items` that there is a run which gives them all.
-/

namespace Lexing

/-- What the item is, without its place. -/
def Item.lexeme : Item → Lexeme
  | .token t => ⟨.token t.kind.unplaced, t.lexeme.toList⟩
  | .trivia t => ⟨.trivia t.kind, t.text.toList⟩

@[simp] theorem Lexeme.lexeme_place (l : Lexeme) (file : String) (line : UInt32) (offset : ℕ) :
    (l.place file line offset).lexeme = l := by
  rcases l with ⟨_ | _, _⟩ <;> simp [place, Item.lexeme]

theorem Item.mem_filterMap_token? {items : List Item} {t : Token} :
    t ∈ items.filterMap Item.token? ↔ Item.token t ∈ items := by
  rw [List.mem_filterMap]
  constructor
  · rintro ⟨item, hitem, hsome⟩
    cases item with
    | token _ => exact Option.some.inj hsome ▸ hitem
    | trivia _ => cases hsome
  · intro ht
    exact ⟨.token t, ht, rfl⟩

theorem mem_tokenize {source : String} {file : Option String} {policy : Policy} {t : Token} :
    t ∈ tokenize source file policy ↔
      Item.token t ∈ (Scanner.start source file policy).items := by
  rw [tokenize_eq, Scanner.tokens, Item.mem_filterMap_token?]

/-- The text of items that follow one another. -/
def Item.textOf (items : List Item) : List Char :=
  items.flatMap (·.text.toList)

@[simp] theorem Item.textOf_nil : Item.textOf [] = [] := rfl

@[simp] theorem Item.textOf_cons (item : Item) (items : List Item) :
    Item.textOf (item :: items) = item.text.toList ++ Item.textOf items := rfl

@[simp] theorem Item.textOf_append (items items' : List Item) :
    Item.textOf (items ++ items') = Item.textOf items ++ Item.textOf items' := by
  simp [Item.textOf]

namespace Scanner

variable {s next t : Scanner} {item : Item} {items items' : List Item}

/-! ## One pull -/

/-- A pull recognises the lexeme at the front of the text ahead, puts it where the cursor stands and
moves the cursor behind it. -/
theorem nextItem?_eq_some_iff :
    s.nextItem? = some (item, next) ↔
      ∃ l, Lexeme.next? s.policy s.cursor.rest = some l ∧
        item = l.place s.file s.cursor.line s.cursor.offset ∧
        next = { s with cursor := s.cursor.advanceBy l.text.length } := by
  simp only [nextItem?, Option.map_eq_some_iff, Prod.mk.injEq]
  constructor
  · rintro ⟨l, hl, rfl, rfl⟩
    exact ⟨l, hl, rfl, rfl⟩
  · rintro ⟨l, hl, rfl, rfl⟩
    exact ⟨l, hl, rfl, rfl⟩

theorem lexeme_of_nextItem? (h : s.nextItem? = some (item, next)) :
    Lexeme.next? s.policy s.cursor.rest = some item.lexeme := by
  obtain ⟨l, hl, rfl, -⟩ := nextItem?_eq_some_iff.mp h
  rw [hl, Lexeme.lexeme_place]

theorem exists_nextItem? (h : s.cursor.rest ≠ []) :
    ∃ item next, s.nextItem? = some (item, next) := by
  obtain ⟨⟨item, next⟩, hnext⟩ :=
    Option.ne_none_iff_exists'.mp fun hnone => h (nextItem?_eq_none_iff.mp hnone)
  exact ⟨item, next, hnext⟩

theorem rest_of_nextItem? (h : s.nextItem? = some (item, next)) :
    s.cursor.rest = item.text.toList ++ next.cursor.rest := by
  obtain ⟨l, hl, rfl, rfl⟩ := nextItem?_eq_some_iff.mp h
  obtain ⟨rest, hrest⟩ := Lexeme.text_prefix_of_next? hl
  rw [Lexeme.text_place, String.toList_ofList, Cursor.rest_advanceBy, ← hrest, List.drop_left]

theorem text_ne_empty_of_nextItem? (h : s.nextItem? = some (item, next)) : item.text ≠ "" := by
  obtain ⟨l, hl, rfl, rfl⟩ := nextItem?_eq_some_iff.mp h
  rw [Lexeme.text_place]
  intro hempty
  exact Lexeme.text_ne_nil_of_next? hl (String.ofList_eq_empty_iff.mp hempty)

theorem eq_of_nextItem? (h : s.nextItem? = some (item, next)) :
    next = { s with cursor := s.cursor.advanceBy item.text.toList.length } := by
  obtain ⟨l, -, rfl, rfl⟩ := nextItem?_eq_some_iff.mp h
  rw [Lexeme.text_place, String.toList_ofList]

theorem line_of_nextItem? (h : s.nextItem? = some (item, next)) : item.line = s.cursor.line := by
  obtain ⟨l, -, rfl, -⟩ := nextItem?_eq_some_iff.mp h
  exact Lexeme.line_place l _ _ _

/-- A token is pulled exactly if its kind and its text are what is recognised at the front. -/
theorem exists_token_iff {kind : Kind Fault} {lexeme : String} :
    (∃ token next, s.nextItem? = some (.token token, next) ∧ token.kind.unplaced = kind ∧
        token.lexeme = lexeme) ↔
      Lexeme.next? s.policy s.cursor.rest = some ⟨.token kind, lexeme.toList⟩ := by
  constructor
  · rintro ⟨token, next, h, rfl, rfl⟩
    exact lexeme_of_nextItem? h
  · intro hl
    refine ⟨_, _, nextItem?_eq_some_iff.mpr ⟨_, hl, rfl, rfl⟩, Kind.unplaced_placed _ kind, ?_⟩
    exact String.ofList_toList

/-! ## Runs -/

/-- Pulling one item after the other from the first scanner gives the items and leads to the second
scanner. -/
inductive Pulls : Scanner → List Item → Scanner → Prop
  | nil (s : Scanner) : Pulls s [] s
  | cons {s next t : Scanner} {item : Item} {items : List Item} :
      s.nextItem? = some (item, next) → Pulls next items t → Pulls s (item :: items) t

namespace Pulls

theorem exists_of_append (h : Pulls s (items ++ items') t) :
    ∃ m, Pulls s items m ∧ Pulls m items' t := by
  induction items generalizing s with
  | nil => exact ⟨s, .nil s, h⟩
  | cons first items ih =>
    cases h with
    | cons hnext hrest =>
      obtain ⟨m, hitems, hm⟩ := ih hrest
      exact ⟨m, .cons hnext hitems, hm⟩

theorem exists_of_append_cons (h : Pulls s (items ++ item :: items') t) :
    ∃ m m', Pulls s items m ∧ m.nextItem? = some (item, m') ∧ Pulls m' items' t := by
  obtain ⟨m, hitems, hm⟩ := h.exists_of_append
  cases hm with
  | cons hnext hrest => exact ⟨m, _, hitems, hnext, hrest⟩

theorem rest_eq (h : Pulls s items t) : s.cursor.rest = Item.textOf items ++ t.cursor.rest := by
  induction h with
  | nil s => rfl
  | cons hnext _ ih => rw [rest_of_nextItem? hnext, ih, Item.textOf_cons, List.append_assoc]

theorem rest_of_start {source : String} {file : Option String} {policy : Policy} {rest : List Char}
    (h : Pulls (start source file policy) items t)
    (hsource : source.toList = Item.textOf items ++ rest) : t.cursor.rest = rest := by
  have hrest := h.rest_eq
  rw [show (start source file policy).cursor.rest = source.toList from rfl, hsource,
    List.append_cancel_left_eq] at hrest
  exact hrest.symm

/-- A run advances over the text of its items, and changes nothing else. -/
theorem eq_advanceBy (h : Pulls s items t) :
    t = { s with cursor := s.cursor.advanceBy (Item.textOf items).length } := by
  induction h with
  | nil s => rfl
  | cons hnext _ ih =>
    rw [ih, eq_of_nextItem? hnext, Item.textOf_cons, List.length_append, Cursor.advanceBy_add]

theorem file_eq (h : Pulls s items t) : t.file = s.file := by
  rw [h.eq_advanceBy]

theorem policy_eq (h : Pulls s items t) : t.policy = s.policy := by
  rw [h.eq_advanceBy]

/-- A run moves the text of its items behind the cursor. -/
theorem cursor_behind {behind : List Char} (h : Pulls s items t) (hs : s.cursor.Behind behind) :
    t.cursor.Behind (behind ++ Item.textOf items) := by
  have hadvance := hs.advanceBy (Item.textOf items).length
  rw [h.rest_eq, List.take_left] at hadvance
  rwa [h.eq_advanceBy]

theorem behind_of_start {source : String} {file : Option String} {policy : Policy}
    (h : Pulls (start source file policy) items t) : t.cursor.Behind (Item.textOf items) := by
  simpa using h.cursor_behind (Cursor.behind_start source)

section Start

variable {source : String} {file : Option String} {policy : Policy}

/-- From the start of a source with too few line feeds for the counter to wrap, a run leads to the
line that the line feeds of its items make. -/
theorem toNat_line_of_start (hlines : source.toList.count '\n' < UInt32.size - 1)
    (h : Pulls (start source file policy) items t) :
    t.line.toNat = 1 + (Item.textOf items).count '\n' := by
  have hbehind := h.behind_of_start
  have hsource : t.cursor.source = source.toList := by
    rw [h.eq_advanceBy, Cursor.source_advanceBy]
    rfl
  have hcount := hbehind.count_le
  rw [hsource] at hcount
  exact hbehind.line_toNat (Nat.lt_of_le_of_lt hcount hlines)

theorem line_toNat_of_start {before after : List Item}
    (hlines : source.toList.count '\n' < UInt32.size - 1)
    (h : Pulls (start source file policy) (before ++ item :: after) t) :
    item.line.toNat = 1 + (Item.textOf before).count '\n' := by
  obtain ⟨m, m', hbefore, hm, -⟩ := h.exists_of_append_cons
  rw [line_of_nextItem? hm]
  exact hbefore.toNat_line_of_start hlines

end Start

/-- A run gives the first of the items ahead, and leaves the others. -/
theorem items_eq (h : Pulls s items t) : s.items = items ++ t.items := by
  induction h with
  | nil s => rfl
  | cons hnext _ ih => rw [items_eq_cons_of_nextItem? hnext, ih, List.cons_append]

end Pulls

theorem exists_pulls_items (s : Scanner) :
    ∃ t, Pulls s s.items t ∧ t.nextItem? = none := by
  induction hn : s.cursor.rest.length using Nat.strongRecOn generalizing s with
  | ind n ih =>
    subst hn
    by_cases hrest : s.cursor.rest = []
    · have hnone := nextItem?_eq_none_iff.mpr hrest
      rw [items_of_nextItem?_eq_none hnone]
      exact ⟨s, .nil s, hnone⟩
    · obtain ⟨item, next, hnext⟩ := exists_nextItem? hrest
      obtain ⟨t, ht, hdone⟩ := ih _ (length_rest_lt_of_nextItem? hnext) next rfl
      rw [items_eq_cons_of_nextItem? hnext]
      exact ⟨t, .cons hnext ht, hdone⟩

/-- The run that gives all items ahead leads to the end of the source. -/
theorem pulls_items (s : Scanner) : Pulls s s.items s.atEnd := by
  obtain ⟨t, ht, hdone⟩ := exists_pulls_items s
  have hrest : s.cursor.rest = Item.textOf s.items := by
    rw [ht.rest_eq, nextItem?_eq_none_iff.mp hdone, List.append_nil]
  have heq : t = s.atEnd := by rw [ht.eq_advanceBy, atEnd, hrest]
  rwa [← heq]

theorem pulls_of_items_eq (h : s.items = items) : Pulls s items s.atEnd := by
  rw [← h]
  exact pulls_items s

theorem nextItem?_atEnd (s : Scanner) : s.atEnd.nextItem? = none := by
  rw [nextItem?_eq_none_iff, atEnd, Cursor.rest_advanceBy, List.drop_length]

/-- The only run to where nothing is left gives all items ahead and leads to the end of the
source. -/
theorem pulls_and_nextItem?_eq_none_iff :
    s.Pulls items t ∧ t.nextItem? = none ↔ items = s.items ∧ t = s.atEnd := by
  constructor
  · rintro ⟨h, hdone⟩
    have hitems : items = s.items := by
      rw [h.items_eq, items_of_nextItem?_eq_none hdone, List.append_nil]
    refine ⟨hitems, ?_⟩
    rw [h.eq_advanceBy, (pulls_items s).eq_advanceBy, hitems]
  · rintro ⟨rfl, rfl⟩
    exact ⟨pulls_items s, nextItem?_atEnd s⟩

end Scanner

end Lexing
