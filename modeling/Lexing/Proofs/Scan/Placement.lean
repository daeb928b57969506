import Lexing.Proofs.Lexeme.Division
import Lexing.Proofs.Scan.Pulls

/-!
# Items and the division of their source

The items of a scan are the lexemes of what is ahead, put where they stand.  The place is all that
an item has in addition: `map_lexeme_items` takes it away, and `placeAll_map_lexeme` puts items back
into the places from which they come.  Where items are cut in two, the second ones are placed behind
the text of the first (`placeAll_append`).

By this, what holds of the division of a text holds of every scan.
-/

namespace Lexing

theorem Item.text_lexeme (item : Item) : item.lexeme.text = item.text.toList := by
  cases item <;> rfl

theorem Item.textOf_map_lexeme (items : List Item) :
    Lexeme.textOf (items.map Item.lexeme) = Item.textOf items := by
  induction items with
  | nil => rfl
  | cons item items ih =>
    rw [List.map_cons, Lexeme.textOf_cons, ih, Item.text_lexeme, Item.textOf_cons]

namespace Lexeme

variable (file : String) (line : UInt32) (offset : ℕ)

theorem placeAll_append (ls ls' : List Lexeme) :
    placeAll file line offset (ls ++ ls') =
      placeAll file line offset ls ++
        placeAll file (line + UInt32.ofNat ((textOf ls).count '\n'))
          (offset + Text.utf8Length (textOf ls)) ls' := by
  induction ls generalizing line offset with
  | nil => simp
  | cons l ls ih =>
    rw [List.cons_append, placeAll_cons, placeAll_cons, ih, textOf_cons, List.count_append,
      UInt32.ofNat_add, Text.utf8Length_append, UInt32.add_assoc, Nat.add_assoc, List.cons_append]

@[simp] theorem map_lexeme_placeAll (ls : List Lexeme) :
    (placeAll file line offset ls).map Item.lexeme = ls := by
  induction ls generalizing line offset with
  | nil => rfl
  | cons l ls ih => rw [placeAll_cons, List.map_cons, lexeme_place, ih]

/-- Where the items of lexemes are cut in two, so are the lexemes, and each part is placed where the
items are. -/
theorem placeAll_map_lexeme {ls : List Lexeme} {before after : List Item}
    (h : placeAll file line offset ls = before ++ after) :
    placeAll file line offset (before.map Item.lexeme) = before ∧
      placeAll file (line + UInt32.ofNat ((Item.textOf before).count '\n'))
        (offset + Text.utf8Length (Item.textOf before)) (after.map Item.lexeme) = after := by
  have hls : ls = before.map Item.lexeme ++ after.map Item.lexeme := by
    rw [← map_lexeme_placeAll file line offset ls, h, List.map_append]
  have hlength : (placeAll file line offset (before.map Item.lexeme)).length = before.length := by
    have hmap := congrArg List.length
      (map_lexeme_placeAll file line offset (before.map Item.lexeme))
    rwa [List.length_map, List.length_map] at hmap
  rw [hls, placeAll_append, Item.textOf_map_lexeme] at h
  exact List.append_inj h hlength

end Lexeme

namespace Scanner

variable {s : Scanner}

theorem items_start (source : String) (file : Option String) (policy : Policy) :
    (start source file policy).items =
      Lexeme.placeAll (file.getD unnamed) 1 0 (Lexeme.lexemes policy source.toList) := rfl

theorem map_lexeme_items (s : Scanner) :
    s.items.map Item.lexeme = Lexeme.lexemes s.policy s.cursor.rest :=
  Lexeme.map_lexeme_placeAll _ _ _ _

theorem isDivision_items (s : Scanner) :
    Lexeme.IsDivision s.policy (s.items.map Item.lexeme) := by
  rw [map_lexeme_items]
  exact Lexeme.isDivision_lexemes _

theorem textOf_items (s : Scanner) : Item.textOf s.items = s.cursor.rest := by
  rw [← Item.textOf_map_lexeme, map_lexeme_items, Lexeme.textOf_lexemes]

theorem mem_of_items_eq {before after : List Item} {item : Item}
    (h : s.items = before ++ item :: after) : item ∈ s.items := by
  rw [h]
  exact List.mem_append_right _ List.mem_cons_self

theorem exists_front_of_mem_items {item : Item} (h : item ∈ s.items) :
    ∃ after, Lexeme.Front s.policy item.lexeme after :=
  s.isDivision_items.exists_front_of_mem (List.mem_map_of_mem h)

end Scanner

end Lexing
