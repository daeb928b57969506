import Lexing.Proofs.Scan.Placement
import Lexing.Proofs.Scan.Tiling

/-!
# What an edit can change

An edit of a source exchanges some of its text, and a scan of the edited source differs from the old
one only near the edit.

* Before the edit the items stay as they are, but for those that end within two characters of it
  (`items_eq_append_of_length`).  No rule looks further ahead than that.
* Behind the edit the items are the same again from the first place on at which both scans have an
  item end: what is behind such a place is the division of the text there
  (`eq_placeAll_of_bytesOf`), whatever stands before it, so it only moves by as many lines and bytes
  as the edit inserts or takes away (`placeAll_isShift`).

`Item.IsShift` says what it means that an item is another one in a different place.  The differences
are integers, since an edit may make the source longer or shorter.
-/

namespace Lexing

/-! ## The same item in another place -/

/-- The second position is the first, so many bytes further on. -/
def Position.IsShift (bytes : ℤ) (p q : Position) : Prop :=
  (q.offset : ℤ) = p.offset + bytes ∧ q.file = p.file

/-- The positions that an item has: the two ends of a token's span, and the place of its error. -/
def Item.positions : Item → List Position
  | .token t => t.span.start :: t.span.stop :: (t.error?.map LexicalError.position).toList
  | .trivia _ => []

/-- The second item is the first, so many lines and bytes further on.  They are the same in
everything that does not tell the place. -/
structure Item.IsShift (lines bytes : ℤ) (i j : Item) : Prop where
  lexeme_eq : j.lexeme = i.lexeme
  line_eq : (j.line.toNat : ℤ) = i.line.toNat + lines
  positions_shift : List.Forall₂ (Position.IsShift bytes) i.positions j.positions

namespace Lexeme

variable {file : String}

theorem place_isShift (l : Lexeme) (line line' : UInt32) (offset offset' : ℕ) :
    ((l.place file line offset).IsShift (line'.toNat - line.toNat) (offset' - offset))
      (l.place file line' offset') where
  lexeme_eq := by rw [lexeme_place, lexeme_place]
  line_eq := by
    rw [line_place, line_place]
    omega
  positions_shift := by
    have hstart : Position.IsShift (offset' - offset) ⟨offset, file⟩ ⟨offset', file⟩ := by
      refine ⟨?_, rfl⟩
      show (offset' : ℤ) = offset + (offset' - offset)
      omega
    have hstop : ∀ n : ℕ,
        Position.IsShift (offset' - offset) ⟨offset + n, file⟩ ⟨offset' + n, file⟩ := by
      intro n
      refine ⟨?_, rfl⟩
      show ((offset' + n : ℕ) : ℤ) = (offset + n : ℕ) + (offset' - offset)
      omega
    rcases l with ⟨kind | kind, text⟩
    · exact .nil
    · refine .cons hstart (.cons (hstop _) ?_)
      cases kind with
      | error fault => exact .cons hstart .nil
      | _ => exact .nil

/-- The same lexemes in another place make the same items, moved there, as long as the line counter
does not wrap in either place. -/
theorem placeAll_isShift (ls : List Lexeme) {line line' : UInt32} {offset offset' : ℕ}
    (hline : line.toNat + (textOf ls).count '\n' < UInt32.size)
    (hline' : line'.toNat + (textOf ls).count '\n' < UInt32.size) :
    List.Forall₂ (Item.IsShift (line'.toNat - line.toNat) (offset' - offset))
      (placeAll file line offset ls) (placeAll file line' offset' ls) := by
  induction ls generalizing line line' offset offset' with
  | nil => exact .nil
  | cons l ls ih =>
    rw [textOf_cons, List.count_append] at hline hline'
    have hroom : line.toNat + l.text.count '\n' < UInt32.size := by omega
    have hroom' : line'.toNat + l.text.count '\n' < UInt32.size := by omega
    have htail := @ih (line + UInt32.ofNat (l.text.count '\n'))
      (line' + UInt32.ofNat (l.text.count '\n')) (offset + Text.utf8Length l.text)
      (offset' + Text.utf8Length l.text)
    rw [toNat_add_ofNat hroom, toNat_add_ofNat hroom'] at htail
    push_cast at htail
    -- what both places go on by leaves their difference as it is
    rw [add_sub_add_right_eq_sub, add_sub_add_right_eq_sub] at htail
    rw [placeAll_cons, placeAll_cons]
    exact .cons (l.place_isShift line line' offset offset') (htail (by omega) (by omega))

/-- The lexemes that end two characters before the end of a text are the first ones of every text
that goes on from it. -/
theorem lexemes_append_of_length {policy : Policy} {text more : List Char} {ls ls' : List Lexeme}
    (h : lexemes policy (text ++ more) = ls ++ ls') (hlength : (textOf ls).length + 2 ≤ text.length)
    (more' : List Char) : ∃ ls'', lexemes policy (text ++ more') = ls ++ ls'' := by
  obtain ⟨htext, hdivision⟩ := lexemes_eq_iff.mp h
  rw [textOf_append] at htext
  obtain ⟨rest, rfl⟩ : textOf ls <+: text :=
    List.prefix_of_prefix_length_le ⟨_, htext⟩ ⟨more, rfl⟩ (by omega)
  rw [List.append_assoc, List.append_cancel_left_eq] at htext
  rw [List.length_append] at hlength
  refine ⟨lexemes policy (rest ++ more'), lexemes_eq_iff.mpr ⟨?_, ?_⟩⟩
  · rw [textOf_append, textOf_lexemes, List.append_assoc]
  · refine hdivision.exchange (isDivision_lexemes _) ?_
    -- the two characters in view are of the text that stays
    rw [textOf_lexemes, htext, List.take_append_of_le_length (by omega),
      List.take_append_of_le_length (by omega)]

end Lexeme

namespace Scanner

variable {file : Option String} {policy : Policy}

/-- Items that end two characters before an edit stay as they are. -/
theorem items_eq_append_of_length {text more : String} {before after : List Item}
    (h : (start (text ++ more) file policy).items = before ++ after)
    (hlength : (Item.textOf before).length + 2 ≤ text.length) (more' : String) :
    ∃ after', (start (text ++ more') file policy).items = before ++ after' := by
  rw [items_start, String.toList_append] at h
  have hlexemes := congrArg (List.map Item.lexeme) h
  rw [Lexeme.map_lexeme_placeAll, List.map_append] at hlexemes
  obtain ⟨ls, hls⟩ := Lexeme.lexemes_append_of_length hlexemes
    (by rwa [Item.textOf_map_lexeme, String.length_toList]) more'.toList
  rw [items_start, String.toList_append, hls, Lexeme.placeAll_append,
    (Lexeme.placeAll_map_lexeme _ _ _ h).1]
  exact ⟨_, rfl⟩

/-- Behind an item end, the items of a source are those of the text there, whatever stands before
it. -/
theorem eq_placeAll_of_bytesOf {text rest : String} {before after : List Item}
    (h : (start (text ++ rest) file policy).items = before ++ after)
    (hbytes : Item.bytesOf before = text.utf8ByteSize) :
    after = Lexeme.placeAll (file.getD unnamed) (1 + UInt32.ofNat (text.toList.count '\n'))
      text.utf8ByteSize (Lexeme.lexemes policy rest.toList) := by
  have htext := textOf_items (start (text ++ rest) file policy)
  have hbehind := isDivision_items (start (text ++ rest) file policy)
  rw [h, Item.textOf_append] at htext
  rw [h, List.map_append] at hbehind
  -- the byte offset tells which text the items before it make up
  rw [← Item.utf8Length_textOf, ← Text.utf8Length_toList] at hbytes
  obtain ⟨hbefore, hafter⟩ :=
    Text.append_inj_of_utf8Length (htext.trans String.toList_append) hbytes
  have hlexemes : Lexeme.lexemes policy rest.toList = after.map Item.lexeme := by
    rw [← hafter, ← Item.textOf_map_lexeme]
    exact hbehind.of_append.lexemes_textOf
  rw [items_start] at h
  have hplaces := (Lexeme.placeAll_map_lexeme _ _ _ h).2
  rw [hbefore, Nat.zero_add, Text.utf8Length_toList] at hplaces
  rw [hlexemes, hplaces]

/-- **An edit is local.**  If the text behind `text` is exchanged, every item that ends at least two
characters before the end of `text` stays what it is and where it is.  If the text before `rest` is
exchanged and both scans have an item end where `rest` starts, the items of `rest` are the same,
further on by the lines and bytes that the one text has more than the other. -/
theorem items_local (file : Option String) (policy : Policy) :
    (∀ text more more' : String, ∀ before item after,
      (start (text ++ more) file policy).items = before ++ item :: after →
      (Item.textOf (before ++ [item])).length + 2 ≤ text.length →
      ∃ after', (start (text ++ more') file policy).items = before ++ item :: after') ∧
    ∀ text text' rest : String,
      (text ++ rest).toList.count '\n' < UInt32.size - 1 →
      (text' ++ rest).toList.count '\n' < UInt32.size - 1 →
      ∀ before after before' after',
        (start (text ++ rest) file policy).items = before ++ after →
        Item.bytesOf before = text.utf8ByteSize →
        (start (text' ++ rest) file policy).items = before' ++ after' →
        Item.bytesOf before' = text'.utf8ByteSize →
        List.Forall₂
          (Item.IsShift (text'.toList.count '\n' - text.toList.count '\n')
            (text'.utf8ByteSize - text.utf8ByteSize))
          after after' := by
  constructor
  · intro text more more' before item after h hlength
    have hcons : ∀ items : List Item, before ++ item :: items = (before ++ [item]) ++ items := by
      intro items
      rw [List.append_assoc, List.singleton_append]
    rw [hcons] at h
    obtain ⟨after', h'⟩ := items_eq_append_of_length h hlength more'
    exact ⟨after', h'.trans (hcons after').symm⟩
  · intro text text' rest hlines hlines' before after before' after' h hbytes h' hbytes'
    rw [String.toList_append, List.count_append] at hlines hlines'
    have hnumber : (1 + UInt32.ofNat (text.toList.count '\n')).toNat = _ :=
      toNat_one_add_ofNat (by omega)
    have hnumber' : (1 + UInt32.ofNat (text'.toList.count '\n')).toNat = _ :=
      toNat_one_add_ofNat (by omega)
    have hplaces := @Lexeme.placeAll_isShift (file.getD unnamed)
      (Lexeme.lexemes policy rest.toList) (1 + UInt32.ofNat (text.toList.count '\n'))
      (1 + UInt32.ofNat (text'.toList.count '\n')) text.utf8ByteSize text'.utf8ByteSize
    rw [hnumber, hnumber', Lexeme.textOf_lexemes] at hplaces
    have hshift := hplaces (by omega) (by omega)
    push_cast at hshift
    rw [add_sub_add_left_eq_sub] at hshift
    rw [eq_placeAll_of_bytesOf h hbytes, eq_placeAll_of_bytesOf h' hbytes']
    exact hshift

/-- What follows `5b` decides what it is, and changes nothing before it; and behind a comment with a
character of two bytes it is what it is behind `=`, one line and four bytes further on. -/
theorem items_local_byte_suffix :
    (∃ before item after, (start ("a 5b" ++ "c") none .strict).items = before ++ item :: after ∧
      (Item.textOf (before ++ [item])).length + 2 ≤ "a 5b".length ∧
      ∃ after', (start ("a 5b" ++ "") none .strict).items = before ++ item :: after') ∧
    ("=" ++ "5b").toList.count '\n' < UInt32.size - 1 ∧
    ("//é\n" ++ "5b").toList.count '\n' < UInt32.size - 1 ∧
    ∃ before after before' after',
      (start ("=" ++ "5b") none .strict).items = before ++ after ∧
      Item.bytesOf before = "=".utf8ByteSize ∧
      (start ("//é\n" ++ "5b") none .strict).items = before' ++ after' ∧
      Item.bytesOf before' = "//é\n".utf8ByteSize ∧
      List.Forall₂
        (Item.IsShift ("//é\n".toList.count '\n' - "=".toList.count '\n')
          ("//é\n".utf8ByteSize - "=".utf8ByteSize))
        after after' := by
  have hword : Pulls (start ("a 5b" ++ "c") none .strict) _ _ := .cons rfl (.cons rfl (.nil _))
  have hsign : Pulls (start ("=" ++ "5b") none .strict) _ _ := .cons rfl (.nil _)
  have hcomment : Pulls (start ("//é\n" ++ "5b") none .strict) _ _ :=
    .cons rfl (.cons rfl (.nil _))
  have hwhole := (items_local none .strict).1 "a 5b" "c" "" [_] _ _ hword.items_eq (by decide)
  have hmoved := (items_local none .strict).2 "=" "//é\n" "5b" (by decide) (by decide) _ _ _ _
    hsign.items_eq (by decide) hcomment.items_eq (by decide)
  exact ⟨⟨_, _, _, hword.items_eq, by decide, hwhole⟩, by decide, by decide, _, _, _, _,
    hsign.items_eq, by decide, hcomment.items_eq, by decide, hmoved⟩

end Scanner

end Lexing
