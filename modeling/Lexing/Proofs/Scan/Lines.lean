import Lexing.Proofs.Lexeme.Context
import Lexing.Proofs.Scan.Placement

/-!
# The lines of a scan

The line counter of a scanner counts the line feeds that it has passed, so every place of a run
knows its line, and so does every item that is pulled there.  Since the text before a place grows
with the run, the lines of the items go down the source and never back.

Line feeds themselves are found in one sort of item only: a run of layout
(`Front.lineFeed_not_mem`).  That tokens and comments have none is seen from the rules, of which
each bounds its text to characters of one line.
-/

namespace Lexing

namespace Lexeme

theorem Front.lineFeed_not_mem {policy : Policy} {l : Lexeme} {after : List Char}
    (h : Front policy l after) (hl : l.shape ≠ .trivia .whitespace) : '\n' ∉ l.text := by
  suffices hline : ∀ c ∈ l.text, isInLine c = true by
    intro hmem
    cases hline _ hmem
  have hdigit : ∀ c : Char, c.isDigit = true → isInLine c = true := by
    intro c hc
    have hne : c ≠ '\n' := by
      rintro rfl
      cases hc
    simpa [isInLine] using hne
  have hword : ∀ c : Char, policy.continuesWord c = true → isInLine c = true := by
    intro c hc
    have hne : c ≠ '\n' := by
      rintro rfl
      rw [policy.continuesWord_of_isLayout rfl] at hc
      cases hc
    simpa [isInLine] using hne
  cases h with
  | layout => exact absurd rfl hl
  | comment hbody => simpa [isInLine] using hbody
  | @word c cs _ hc hcs =>
    intro d hd
    rcases List.mem_cons.mp hd with rfl | hd
    · exact hword _ (Policy.continuesWord_of_startsWord hc)
    · exact hword d (hcs d hd)
  | number _ hdigits => exact fun c hc => hdigit c (hdigits c hc)
  | byteNumber _ hdigits =>
    intro c hc
    rcases List.mem_append.mp hc with hc | hc
    · exact hdigit c (hdigits c hc)
    · obtain rfl := List.mem_singleton.mp hc
      rfl
  | string es => exact StringLiteral.isInLine_of_mem_text es
  | openString hbody => simpa [isInLine] using hbody
  | symbol s =>
    have hall : ∀ s ∈ Symbol.all, s.spelling.all isInLine := by decide
    exact List.all_eq_true.mp (hall s s.mem_all)
  | @unknown c _ hc =>
    intro d hd
    obtain rfl := List.mem_singleton.mp hd
    have hne : d ≠ '\n' := by
      rintro rfl
      cases hc.layout
    simpa [isInLine] using hne

end Lexeme

namespace Scanner

theorem exists_whitespace_of_mem_items {s : Scanner} {item : Item} (h : item ∈ s.items)
    (hline : '\n' ∈ item.text.toList) :
    ∃ trivia, item = .trivia trivia ∧ trivia.kind = .whitespace := by
  obtain ⟨after, hfront⟩ := exists_front_of_mem_items h
  rw [← Item.text_lexeme] at hline
  have hshape : item.lexeme.shape = .trivia .whitespace := by
    by_contra hne
    exact hfront.lineFeed_not_mem hne hline
  cases item with
  | token t => cases hshape
  | trivia t => exact ⟨t, rfl, Shape.trivia.inj hshape⟩

variable {source : String} {file : Option String} {policy : Policy}

/-- An item ahead of a fresh scanner is on the line that the line feeds before it make. -/
theorem line_toNat_of_items_eq {before after : List Item} {item : Item}
    (hlines : source.toList.count '\n' < UInt32.size - 1)
    (h : (start source file policy).items = before ++ item :: after) :
    item.line.toNat = 1 + (Item.textOf before).count '\n' :=
  (pulls_of_items_eq h).line_toNat_of_start hlines

theorem pairwise_line_le (hlines : source.toList.count '\n' < UInt32.size - 1) :
    (start source file policy).items.Pairwise fun i j => i.line ≤ j.line := by
  rw [List.pairwise_iff_forall_sublist]
  intro i j hsublist
  -- between the two items the scan passes some text, and with it line feeds or none
  obtain ⟨before, middle, after, hitems⟩ : ∃ before middle after,
      (start source file policy).items = before ++ i :: (middle ++ j :: after) := by
    obtain ⟨before, behind, hbefore, hi, hbehind⟩ := List.cons_sublist_iff.mp hsublist
    obtain ⟨first, between, rfl⟩ := List.append_of_mem hi
    obtain ⟨middle, after, rfl⟩ := List.append_of_mem (List.singleton_sublist.mp hbehind)
    exact ⟨first, between ++ middle, after, by rw [hbefore]; simp⟩
  have hi := line_toNat_of_items_eq hlines hitems
  have hitems' : (start source file policy).items = (before ++ i :: middle) ++ j :: after := by
    rw [hitems, List.append_assoc, List.cons_append]
  have hj := line_toNat_of_items_eq hlines hitems'
  rw [Item.textOf_append, List.count_append] at hj
  rw [UInt32.le_iff_toNat_le]
  omega

/-- **Lines are counted exactly.**  Every item of a source is on the line that is one more than the
number of line feeds before it, and the lines of the items never go back.  After any run the scanner
is on the line that the line feeds of the run make, and at the end on the last line of the source.
Line feeds are found in layout alone: no token and no comment goes over one. -/
theorem lines_exact (source : String) (file : Option String) (policy : Policy)
    (hlines : source.toList.count '\n' < UInt32.size - 1) :
    (∀ before item after, (start source file policy).items = before ++ item :: after →
        source.toList = Item.textOf before ++ item.text.toList ++ Item.textOf after ∧
          item.line.toNat = 1 + (Item.textOf before).count '\n') ∧
      (start source file policy).items.Pairwise (fun i j => i.line ≤ j.line) ∧
      (∀ items t, Pulls (start source file policy) items t →
        t.line.toNat = 1 + (Item.textOf items).count '\n') ∧
      (start source file policy).atEnd.line.toNat = 1 + source.toList.count '\n' ∧
      ∀ item ∈ (start source file policy).items, '\n' ∈ item.text.toList →
        ∃ trivia, item = .trivia trivia ∧ trivia.kind = .whitespace := by
  have hsource : Item.textOf (start source file policy).items = source.toList := textOf_items _
  refine ⟨?_, pairwise_line_le hlines, ?_, ?_, ?_⟩
  · intro before item after hitems
    refine ⟨?_, line_toNat_of_items_eq hlines hitems⟩
    rw [← hsource, hitems, Item.textOf_append, Item.textOf_cons, List.append_assoc]
  · intro items t h
    exact h.toNat_line_of_start hlines
  · rw [← hsource]
    exact (pulls_items _).toNat_line_of_start hlines
  · intro item hitem
    exact exists_whitespace_of_mem_items hitem

/-- A string literal that its line does not close, and two line feeds in one run of layout. -/
theorem lines_exact_open_string :
    "a \"\\\n \n5b".toList.count '\n' < UInt32.size - 1 ∧
      (start "a \"\\\n \n5b" none .strict).atEnd.line.toNat =
        1 + "a \"\\\n \n5b".toList.count '\n' :=
  ⟨by decide, (lines_exact _ none .strict (by decide)).2.2.2.1⟩

end Scanner

end Lexing
