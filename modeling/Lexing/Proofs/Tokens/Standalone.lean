import Lexing.Proofs.Lexeme.Neighbour
import Lexing.Proofs.Scan.Placement
import Lexing.Proofs.Scan.Tiling
import Lexing.Proofs.Tokens.Shift

/-!
# Items that stand alone

To find where an item ends the scan has looked behind it: at a second character of a symbol, at what
follows the `b` of a byte literal, at the rest of the line for the quote that closes a string or for
the digits of an escape.  So it is not said that the text of an item, without what was behind it,
makes the same item.

It does, because looking behind a lexeme only ever finds reasons to go on, and at the end of a text
there are none (`Front.at_end`).  By itself a lexeme is divided into nothing but itself
(`Front.lexemes_text`), and an item is its lexeme in its place (`place_of_items_eq`): alone it
stands on the first line at offset 0, and `Item.shift` brings it to where it was.
-/

namespace Lexing

/-- The text of a lexeme that stands somewhere is this lexeme and no other. -/
theorem Lexeme.Front.lexemes_text {policy : Policy} {l : Lexeme} {after : List Char}
    (h : Front policy l after) : lexemes policy l.text = [l] := by
  have halone := lexemes_of_front h.at_end
  rwa [List.append_nil, lexemes_nil] at halone

namespace Scanner

variable {source : String} {file : Option String} {policy : Policy} {before after : List Item}
  {item : Item}

/-- An item is its lexeme, on the line and at the byte that the items before it lead to. -/
theorem place_of_items_eq (h : (start source file policy).items = before ++ item :: after) :
    item.lexeme.place (file.getD unnamed) (1 + UInt32.ofNat ((Item.textOf before).count '\n'))
      (0 + Item.bytesOf before) = item := by
  rw [items_start] at h
  obtain ⟨-, hplaced⟩ := Lexeme.placeAll_map_lexeme _ _ _ h
  rw [List.map_cons, Lexeme.placeAll_cons, Item.utf8Length_textOf] at hplaced
  exact (List.cons.inj hplaced).1

theorem items_start_text (h : item ∈ (start source file policy).items) (name : Option String) :
    (start item.text name policy).items = [item.lexeme.place (name.getD unnamed) 1 0] := by
  obtain ⟨_, hfront⟩ := exists_front_of_mem_items h
  have halone : Lexeme.lexemes policy item.lexeme.text = [item.lexeme] := hfront.lexemes_text
  rw [item.text_lexeme] at halone
  rw [items_start, halone]
  rfl

/-- **Items delimit themselves.**  The text of an item, scanned by itself under the same policy, is
one item, with this text and of the same kind with all that goes with it.  What differs is the place
alone: moved by the lines and bytes that were before it, the one item is the other.  So the kind of
an item is a matter of its text: wherever an item has the same text, it is the same lexeme. -/
theorem items_self_delimiting
    (h : (start source file policy).items = before ++ item :: after) :
    (∃ alone, (start item.text file policy).items = [alone] ∧ alone.text = item.text ∧
        alone.lexeme = item.lexeme ∧
        alone.shift ((Item.textOf before).count '\n') (Item.bytesOf before) = item) ∧
      ∀ source' file', ∀ other ∈ (start source' file' policy).items,
        other.text = item.text → other.lexeme = item.lexeme := by
  have hmem := mem_of_items_eq h
  constructor
  · refine ⟨_, items_start_text hmem file, ?_, Lexeme.lexeme_place _ _ _ _, ?_⟩
    · rw [Lexeme.text_place, item.text_lexeme, String.ofList_toList]
    · rw [Lexeme.place_shift, place_of_items_eq h]
  · intro source' file' other hother htext
    -- both are what the text is by itself
    have hone := items_start_text hother none
    rw [htext, items_start_text hmem none] at hone
    have hlexeme := congrArg Item.lexeme (List.cons.inj hone).1
    rw [Lexeme.lexeme_place, Lexeme.lexeme_place] at hlexeme
    exact hlexeme.symm

/-- A string literal that its line does not close, with an escape that lacks a digit, on the second
line of a source and with a third line behind it. -/
theorem items_self_delimiting_open_string :
    ∃ before item after,
      (start "\n\"\\x4\n5b" none .strict).items = before ++ item :: after ∧
      item.text = "\"\\x4" ∧
      ∃ alone, (start "\"\\x4" none .strict).items = [alone] ∧ alone.lexeme = item.lexeme ∧
        alone.shift 1 1 = item := by
  have hitems : (start "\n\"\\x4\n5b" none .strict).items =
      [.trivia ⟨.whitespace, "\n", 1⟩] ++
        .token ⟨.error ⟨.invalidHexEscape "\\x4", ⟨1, "<input>"⟩⟩, "\"\\x4", 2,
          ⟨⟨1, "<input>"⟩, ⟨5, "<input>"⟩⟩⟩ ::
        (start "\n\"\\x4\n5b" none .strict).items.drop 2 := by
    decide +kernel
  obtain ⟨⟨alone, halone, -, hlexeme, hshift⟩, -⟩ := items_self_delimiting hitems
  exact ⟨_, _, _, hitems, rfl, alone, halone, hlexeme, hshift⟩

end Scanner

end Lexing
