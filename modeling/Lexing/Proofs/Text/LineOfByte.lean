import Lexing.Proofs.Scan.Behind
import Lexing.Proofs.Text.Lines

/-!
# The line of a byte

A byte of a text is on a line whether or not it starts a character.  `LineOfByte` says which line
this is: where the text is cut so that the part above is made of whole lines, the part between is
one line, and the byte is in it.  The definition looks at the ends of the three parts and counts
bytes; it does not say how the line is looked for.

Every byte of a text has such a line (`exists_lineOfByte`), and the lookup finds it
(`LineOfByte.lineAt?_eq`); from the end of the text on there is none (`lineAt?_eq_none`).  Since
there is nothing else to find, a byte has one line only (`LineOfByte.eq_of_lineOfByte`), and
`lineAt?_exact` has it that the lookup undoes the cutting of a text into lines.

Inside its line the byte starts a character, or it is one of the bytes behind the first
(`LineOfByte.inside_or_boundary`).  Only in the first case is there a number of characters before
it, and `charIndex?` tells the cases apart.
-/

namespace Lexing.Text

variable {cs before after above line below : List Char} {offset : ℕ}

/-! ## Bytes and characters -/

/-- The byte is one of the bytes of a character, but not the first of them. -/
def InsideCharacter (offset : ℕ) (cs : List Char) : Prop :=
  ∃ before c after, cs = before ++ c :: after ∧ utf8Length before < offset ∧
    offset < utf8Length before + c.utf8Size

theorem exists_char_of_lt_utf8Length (h : offset < utf8Length cs) :
    ∃ before c after, cs = before ++ c :: after ∧ utf8Length before ≤ offset ∧
      offset < utf8Length before + c.utf8Size := by
  induction cs generalizing offset with
  | nil => simp at h
  | cons c cs ih =>
    rw [utf8Length_cons] at h
    by_cases hfirst : offset < c.utf8Size
    · exact ⟨[], c, cs, rfl, by simp, by simpa using hfirst⟩
    · obtain ⟨before, d, after, rfl, hstart, hstop⟩ :=
        ih (by omega : offset - c.utf8Size < utf8Length cs)
      refine ⟨c :: before, d, after, rfl, ?_, ?_⟩
      · rw [utf8Length_cons]
        omega
      · rw [utf8Length_cons]
        omega

/-- No number of characters ends inside the next one. -/
theorem charIndex?_eq_none {c : Char} (hstart : utf8Length before < offset)
    (hstop : offset < utf8Length before + c.utf8Size) (after : List Char) :
    charIndex? offset (before ++ c :: after) = none := by
  suffices h : ∀ seen, charIndex?.go seen offset (before ++ c :: after) = none from h 0
  induction before generalizing offset with
  | nil =>
    intro seen
    obtain ⟨n, rfl⟩ : ∃ n, offset = n + 1 := ⟨offset - 1, by simp at hstart; omega⟩
    rw [List.nil_append, charIndex?.go, if_neg (by simpa using hstop)]
  | cons d before ih =>
    intro seen
    rw [utf8Length_cons] at hstart hstop
    obtain ⟨n, rfl⟩ : ∃ n, offset = n + 1 := ⟨offset - 1, by omega⟩
    rw [List.cons_append, charIndex?.go, if_pos (by omega)]
    exact ih (by omega) (by omega) (seen + 1)

theorem not_insideCharacter (before after : List Char) :
    ¬InsideCharacter (utf8Length before) (before ++ after) := by
  rintro ⟨first, c, rest, hsplit, hstart, hstop⟩
  have hnone := charIndex?_eq_none hstart hstop rest
  rw [← hsplit, charIndex?_utf8Length] at hnone
  cases hnone

/-! ## The line -/

/-- `line` is the line of the text that has the byte at `offset`, with its line feed if there is
one; `above` is the text before it and `below` the text behind it. -/
structure LineOfByte (cs : List Char) (offset : ℕ) (above line below : List Char) : Prop where
  text_eq : cs = above ++ line ++ below
  /-- What is above ends a line. -/
  above_ends : ∀ c ∈ above.getLast?, c = '\n'
  /-- The line goes over no line feed. -/
  lineFeed_not_mem : '\n' ∉ line.dropLast
  /-- The line ends with its line feed, or with the text. -/
  line_ends : below ≠ [] → line.getLast? = some '\n'
  start_le : utf8Length above ≤ offset
  lt_stop : offset < utf8Length above + utf8Length line

theorem wholeLines_of_getLast? (h : ∀ c ∈ above.getLast?, c = '\n') : WholeLines above := by
  obtain ⟨whole, hwhole, habove⟩ := exists_wholeLines above
  rcases List.eq_nil_or_concat above with rfl | ⟨first, c, rfl⟩
  · exact .nil
  · obtain rfl : c = '\n' := h c (by simp)
    -- behind its last line feed nothing is left
    rw [List.concat_eq_append] at habove ⊢
    rw [lineHead_append_lineFeed, List.append_nil] at habove
    rwa [habove]

theorem WholeLines.getLast?_eq (h : WholeLines above) : ∀ c ∈ above.getLast?, c = '\n' := by
  induction h with
  | nil => simp
  | @cons text rest _ _ ih =>
    intro c hc
    cases rest with
    | nil => simpa using hc.symm
    | cons d rest =>
      refine ih c ?_
      rwa [List.getLast?_append_of_ne_nil _ (by simp), List.getLast?_cons_cons] at hc

theorem firstLine_iff :
    FirstLine line below ↔
      line ≠ [] ∧ '\n' ∉ line.dropLast ∧ (below ≠ [] → line.getLast? = some '\n') := by
  constructor
  · rintro (⟨htext, _⟩ | ⟨hne, htext⟩)
    · exact ⟨by simp, by simpa using htext, fun _ => by simp⟩
    · exact ⟨hne, fun hmem => htext ((List.dropLast_prefix line).mem hmem), fun h => absurd rfl h⟩
  · rintro ⟨hne, htext, hends⟩
    obtain ⟨text, c, rfl⟩ := (List.eq_nil_or_concat line).resolve_left hne
    rw [List.concat_eq_append] at htext hends ⊢
    rw [List.dropLast_concat] at htext
    by_cases hc : c = '\n'
    · exact hc ▸ .closed htext below
    · obtain rfl : below = [] := by
        by_contra hbelow
        exact hc (by simpa using hends hbelow)
      exact .last (by simp) (by simp [htext, Ne.symm hc])

theorem LineOfByte.lineAt?_eq {source : String}
    (h : LineOfByte source.toList offset above line below) :
    lineAt? source offset =
      some ⟨1 + above.count '\n', String.ofList line, offset - utf8Length above⟩ := by
  have hstart := h.start_le
  have hstop := h.lt_stop
  have habove := wholeLines_of_getLast? h.above_ends
  have hline : FirstLine line below := by
    refine firstLine_iff.mpr ⟨?_, h.lineFeed_not_mem, h.line_ends⟩
    rintro rfl
    rw [utf8Length_nil] at hstop
    omega
  have hfound := lineAt?_eq_some habove hline (by omega : offset - utf8Length above < _)
  rwa [← List.append_assoc, ← h.text_eq, String.ofList_toList,
    Nat.add_sub_cancel' hstart] at hfound

theorem exists_lineOfByte (h : offset < utf8Length cs) :
    ∃ above line below, LineOfByte cs offset above line below := by
  obtain ⟨before, c, after, rfl, hstart, hstop⟩ := exists_char_of_lt_utf8Length h
  obtain ⟨above, habove, hbefore⟩ := exists_wholeLines before
  have hlength : utf8Length before = utf8Length above + utf8Length (lineHead before) := by
    rw [← utf8Length_append, ← hbefore]
  obtain ⟨line, below, hline, htext, hin⟩ : ∃ line below, FirstLine line below ∧
      lineHead before ++ c :: after = line ++ below ∧
      utf8Length (lineHead before) + c.utf8Size ≤ utf8Length line := by
    by_cases hc : c = '\n'
    · subst hc
      exact ⟨lineHead before ++ ['\n'], after, .closed (not_mem_lineHead before) after, by simp,
        by simp⟩
    · -- the line goes on behind the character
      have hsingle : '\n' ∉ [c] := by simpa using Ne.symm hc
      obtain ⟨below, hfirst, hafter⟩ :=
        exists_firstLine (by simp) (not_mem_lineHead before) hsingle after
      refine ⟨_, below, hfirst, ?_, by simp⟩
      rw [List.append_assoc (lineHead before ++ [c]), ← hafter, List.append_assoc]
      rfl
  obtain ⟨-, hfeed, hends⟩ := firstLine_iff.mp hline
  refine ⟨above, line, below, ?_, habove.getLast?_eq, hfeed, hends, ?_, ?_⟩
  · rw [List.append_assoc, ← htext, ← List.append_assoc, ← hbefore]
  · omega
  · omega

theorem lineAt?_eq_none {source : String} (h : source.utf8ByteSize ≤ offset) :
    lineAt? source offset = none := by
  obtain ⟨past, rfl⟩ := Nat.exists_eq_add_of_le h
  have hfind := findLine?_append 1 past (lines source.toList) []
  rwa [flatten_lines, utf8Length_toList, List.append_nil] at hfind

namespace LineOfByte

theorem inside_or_boundary (h : LineOfByte cs offset above line below) :
    InsideCharacter offset cs ∨
      ∃ head rest, line = head ++ rest ∧ utf8Length above + utf8Length head = offset := by
  have hstart := h.start_le
  have hstop := h.lt_stop
  obtain ⟨head, c, rest, hline, hhead, hrest⟩ :=
    exists_char_of_lt_utf8Length (by omega : offset - utf8Length above < utf8Length line)
  by_cases hfirst : utf8Length head = offset - utf8Length above
  · exact .inr ⟨head, c :: rest, hline, by omega⟩
  · refine .inl ⟨above ++ head, c, rest ++ below, ?_, ?_, ?_⟩
    · rw [h.text_eq, hline]
      simp
    · rw [utf8Length_append]
      omega
    · rw [utf8Length_append]
      omega

section Boundary

variable {head rest : List Char} (h : LineOfByte cs offset above line below)
  (hline : line = head ++ rest) (hoffset : utf8Length above + utf8Length head = offset)

include h hline hoffset

/-- Where the byte starts a character of its line, it does so in the text. -/
theorem not_inside_of_boundary : ¬InsideCharacter offset cs := by
  have hboundary := not_insideCharacter (above ++ head) (rest ++ below)
  rwa [utf8Length_append, hoffset, ← List.append_assoc, List.append_assoc above, ← hline,
    ← h.text_eq] at hboundary

/-- What stands before the byte on its line goes over no line feed, so there are as many before the
byte as above. -/
theorem count_of_boundary : (above ++ head).count '\n' = above.count '\n' := by
  have hstop := h.lt_stop
  have hrest : rest ≠ [] := by
    rintro rfl
    rw [hline, List.append_nil] at hstop
    omega
  have hfeed := h.lineFeed_not_mem
  rw [hline, List.dropLast_append_of_ne_nil hrest] at hfeed
  have hhead : '\n' ∉ head := fun hmem => hfeed (List.mem_append_left _ hmem)
  rw [List.count_append, List.count_eq_zero_of_not_mem hhead, Nat.add_zero]

end Boundary

/-- No number of characters of its line ends at a byte inside a character. -/
theorem charIndex?_of_inside (h : LineOfByte cs offset above line below)
    (hinside : InsideCharacter offset cs) : charIndex? (offset - utf8Length above) line = none := by
  have hstart := h.start_le
  have hstop := h.lt_stop
  obtain ⟨head, c, rest, hline, hhead, hrest⟩ :=
    exists_char_of_lt_utf8Length (by omega : offset - utf8Length above < utf8Length line)
  by_cases hfirst : utf8Length head = offset - utf8Length above
  · exact absurd hinside (h.not_inside_of_boundary hline (by omega))
  · rw [hline]
    exact charIndex?_eq_none (by omega) hrest rest

/-- There is one line only that has the byte: both ways to cut the text are what the lookup finds.
-/
theorem eq_of_lineOfByte {above' line' below' : List Char}
    (h : LineOfByte cs offset above line below) (h' : LineOfByte cs offset above' line' below') :
    above' = above ∧ line' = line ∧ below' = below := by
  obtain ⟨source, rfl⟩ : ∃ source : String, cs = source.toList :=
    ⟨String.ofList cs, String.toList_ofList.symm⟩
  have hfound := h'.lineAt?_eq.symm.trans h.lineAt?_eq
  obtain ⟨-, htext, hoffset⟩ := Line.mk.inj (Option.some.inj hfound)
  obtain rfl : line' = line := String.ofList_inj.mp htext
  have hstart := h.start_le
  have hstart' := h'.start_le
  have hcut : above' ++ (line' ++ below') = above ++ (line' ++ below) := by
    rw [← List.append_assoc, ← List.append_assoc, ← h.text_eq, ← h'.text_eq]
  obtain ⟨rfl, hbehind⟩ := append_inj_of_utf8Length hcut (by omega)
  exact ⟨rfl, rfl, List.append_cancel_left hbehind⟩

end LineOfByte

/-! ## The lookup and the lines -/

/-- A line is found exactly if it is the line of the byte, with its number and with the offset that
the byte has in it. -/
theorem lineAt?_eq_some_iff {source : String} {found : Line} :
    lineAt? source offset = some found ↔
      ∃ above below, LineOfByte source.toList offset above found.text.toList below ∧
        found.number = 1 + above.count '\n' ∧ utf8Length above + found.offset = offset := by
  constructor
  · intro hfound
    have hoffset : offset < utf8Length source.toList := by
      by_contra hpast
      rw [utf8Length_toList] at hpast
      rw [lineAt?_eq_none (Nat.le_of_not_lt hpast)] at hfound
      cases hfound
    obtain ⟨above, line, below, h⟩ := exists_lineOfByte hoffset
    rw [h.lineAt?_eq] at hfound
    obtain rfl := Option.some.inj hfound
    refine ⟨above, below, ?_, rfl, Nat.add_sub_cancel' h.start_le⟩
    rwa [String.toList_ofList]
  · rintro ⟨above, below, h, hnumber, rfl⟩
    rw [h.lineAt?_eq, String.ofList_toList, Nat.add_sub_cancel_left, ← hnumber]

/-- **The lookup undoes the cutting of a text into lines.**  It finds nothing exactly from the end
of the text on.  What it finds is the line of the byte, whether or not the byte starts a character:
the number counts the line feeds above, and the offset the bytes between the start of the line and
the byte.  And up to the end of the text there is one way, and only one, to cut the text around the
line of a byte. -/
theorem lineAt?_exact (content : String) (offset : ℕ) :
    (lineAt? content offset = none ↔ content.utf8ByteSize ≤ offset) ∧
    (∀ found, lineAt? content offset = some found ↔
      ∃ above below, LineOfByte content.toList offset above found.text.toList below ∧
        found.number = 1 + above.count '\n' ∧ utf8Length above + found.offset = offset) ∧
    (offset < content.utf8ByteSize ↔
      ∃! cut : List Char × List Char × List Char,
        LineOfByte content.toList offset cut.1 cut.2.1 cut.2.2) := by
  have hexists : offset < content.utf8ByteSize → ∃ above line below,
      LineOfByte content.toList offset above line below := fun hoffset =>
    exists_lineOfByte (by rwa [utf8Length_toList])
  refine ⟨⟨fun hnone => ?_, lineAt?_eq_none⟩, fun found => lineAt?_eq_some_iff,
    ⟨fun hoffset => ?_, ?_⟩⟩
  · by_contra hoffset
    obtain ⟨above, line, below, h⟩ := hexists (Nat.lt_of_not_le hoffset)
    rw [h.lineAt?_eq] at hnone
    cases hnone
  · obtain ⟨above, line, below, h⟩ := hexists hoffset
    refine ⟨(above, line, below), h, fun cut hcut => ?_⟩
    obtain ⟨habove, hline, hbelow⟩ := h.eq_of_lineOfByte hcut
    exact Prod.ext habove (Prod.ext hline hbelow)
  · rintro ⟨⟨above, line, below⟩, h, -⟩
    have hstop := h.lt_stop
    rw [← utf8Length_toList, h.text_eq, utf8Length_append, utf8Length_append]
    omega

/-- The second byte of a character of two, on a line that the text does not end. -/
example : lineAt? "é\n aé" 6 = some ⟨2, " aé", 3⟩ := by decide

end Lexing.Text
