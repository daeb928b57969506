import Lexing.Proofs.Literal.Grammar
import Lexing.Proofs.Text.Stretch

/-!
# A string literal and the end of its line

A line feed ends a literal in the same way as the end of the text does.  No element holds one, and
where an element or the diagnosis of a fault would look past one, what it finds there counts for
nothing.  `read_append_of_stopsAt` says this of the reader: text that starts with a line feed can be
put behind a line, or taken away, without a change to what is read off the line.
-/

namespace Lexing

open Text

/-- Whether a character belongs to the line that it stands on. -/
def isInLine (c : Char) : Bool := c ≠ '\n'

@[simp] theorem isInLine_lineFeed : isInLine '\n' = false := rfl

theorem eq_nil_or_lineFeed {after : List Char} (h : StopsAt isInLine after) :
    after = [] ∨ ∃ rest, after = '\n' :: rest := by
  cases after with
  | nil => exact .inl rfl
  | cons c rest =>
    obtain rfl : c = '\n' := by simpa [isInLine] using h
    exact .inr ⟨rest, rfl⟩

namespace Element

variable {cs after : List Char}

theorem isInLine_of_mem_text (e : Element) : ∀ c ∈ e.text, isInLine c = true := by
  cases e with
  | ordinary c hc =>
    have hline : isInLine c = true := by
      simp only [isOrdinary, Bool.and_eq_true] at hc
      exact hc.2
    simpa [text] using hline
  | escape e =>
    have hmark : isInLine e.mark = true := by cases e <;> rfl
    have hbackslash : isInLine '\\' = true := rfl
    simp [text, hmark, hbackslash]
  | hex high low =>
    have hdigit : ∀ d : HexDigit, isInLine d.char = true := by
      intro d
      have hne : d.char ≠ '\n' := by
        intro hline
        have hhex := d.isHexDigit
        rw [hline] at hhex
        cases hhex
      simpa [isInLine] using hne
    have hx : isInLine '\\' = true ∧ isInLine 'x' = true := ⟨rfl, rfl⟩
    simp [text, hx, hdigit]

theorem read?_lineFeed (rest : List Char) : read? ('\n' :: rest) = none := by
  rw [read?_of_ne (by decide)]
  rfl

/-- The element at the front of a line does not depend on what is behind the line. -/
theorem read?_append_of_stopsAt (hcs : ∀ c ∈ cs, isInLine c = true)
    (hafter : StopsAt isInLine after) : read? (cs ++ after) = read? cs := by
  obtain rfl | ⟨rest, rfl⟩ := eq_nil_or_lineFeed hafter
  · rw [List.append_nil]
  match cs with
  | [] => exact read?_lineFeed rest
  | c :: cs =>
    by_cases hc : c = '\\'
    · subst hc
      match cs with
      | [] => rw [List.singleton_append, read?_escape (by decide)]; rfl
      | mark :: cs =>
        by_cases hmark : mark = 'x'
        · subst hmark
          -- the two places of the digits: a line feed in either of them is no digit
          have hline : '\n'.isHexDigit = false := rfl
          match cs, rest with
          | [], [] => rfl
          | [], low :: rest =>
            exact (read?_hex '\n' low rest).trans (dif_neg (by simp [hline]))
          | [high], rest =>
            exact (read?_hex high '\n' rest).trans (dif_neg (by simp [hline]))
          | high :: low :: cs, rest =>
            exact (read?_hex high low _).trans (read?_hex high low _).symm
        · rw [List.cons_append, List.cons_append, read?_escape hmark, read?_escape hmark]
    · rw [List.cons_append, read?_of_ne hc, read?_of_ne hc]

/-- The run of elements at the front of a line does not depend on what is behind the line. -/
theorem readAll_append_of_stopsAt (hcs : ∀ c ∈ cs, isInLine c = true)
    (hafter : StopsAt isInLine after) :
    readAll (cs ++ after) = ((readAll cs).1, (readAll cs).2 ++ after) := by
  induction hn : cs.length using Nat.strongRecOn generalizing cs with
  | ind n ih =>
    subst hn
    have hread := read?_append_of_stopsAt hcs hafter
    cases h : read? cs with
    | none =>
      rw [h] at hread
      rw [readAll_of_none h, readAll_of_none hread]
    | some e =>
      rw [h] at hread
      have hlt := length_drop_lt_of_read? h
      obtain ⟨rest, rfl⟩ := text_prefix_of_read? h
      rw [List.drop_left] at hlt
      have hrest : ∀ c ∈ rest, isInLine c = true :=
        fun c hc => hcs c (List.mem_append_right _ hc)
      rw [readAll_of_some hread, readAll_of_some h, List.append_assoc, List.drop_left,
        List.drop_left, ih _ hlt hrest rfl]

end Element

namespace StringLiteral

theorem isInLine_of_mem_text (es : List Element) : ∀ c ∈ text es, isInLine c = true := by
  intro c hc
  obtain rfl | hc : c = '"' ∨ c ∈ es.flatMap Element.text ++ ['"'] := by simpa [text] using hc
  · rfl
  rcases List.mem_append.mp hc with hc | hc
  · obtain ⟨e, -, hmem⟩ := List.mem_flatMap.mp hc
    exact e.isInLine_of_mem_text c hmem
  · obtain rfl := List.mem_singleton.mp hc
    rfl

variable {cs after : List Char}

/-- How a literal is at fault does not depend on what is behind its line. -/
theorem faultAt_append_of_stopsAt (hcs : ∀ c ∈ cs, isInLine c = true)
    (hafter : StopsAt isInLine after) : faultAt (cs ++ after) = faultAt cs := by
  obtain rfl | ⟨rest, rfl⟩ := eq_nil_or_lineFeed hafter
  · rw [List.append_nil]
  match cs with
  | [] => rfl
  | c :: cs =>
    by_cases hc : c = '\\'
    · subst hc
      match cs with
      | [] => rfl
      | mark :: cs =>
        have hmark : mark ≠ '\n' := by
          simpa [isInLine] using hcs mark (by simp)
        by_cases hx : mark = 'x'
        · subst hx
          -- the characters shown stop at the line feed, at the first of them or at the second
          match cs with
          | [] => simp [faultAt]
          | [high] => simp [faultAt, List.takeWhile_cons]
          | high :: low :: cs => simp [faultAt]
        · simp [faultAt, hmark]
    · simp [faultAt, hc]

/-- A literal that is not closed behind its run of elements is at fault, and takes its line. -/
theorem read_of_not_closed (h : ∀ rest, (Element.readAll cs).2 ≠ '"' :: rest) :
    read cs =
      ⟨.token (.error (faultAt (Element.readAll cs).2)), '"' :: cs.takeWhile isInLine⟩ := by
  rw [read]
  split
  · next rest heq => exact absurd heq (h rest)
  · rfl

theorem read_append_of_stopsAt (hcs : ∀ c ∈ cs, isInLine c = true)
    (hafter : StopsAt isInLine after) : read (cs ++ after) = read cs := by
  have hrun := Element.readAll_append_of_stopsAt hcs hafter
  have hsplit := Element.flatMap_text_readAll cs
  by_cases hclosed : ∃ rest, (Element.readAll cs).2 = '"' :: rest
  · obtain ⟨rest, hrest⟩ := hclosed
    rw [hrest] at hsplit
    rw [← hsplit, List.append_assoc, List.cons_append, read_of_closed, read_of_closed]
  · have hopen : ∀ rest, (Element.readAll cs).2 ≠ '"' :: rest := fun rest h => hclosed ⟨rest, h⟩
    have hopen' : ∀ rest, (Element.readAll (cs ++ after)).2 ≠ '"' :: rest := by
      intro rest heq
      rw [hrun] at heq
      cases hnil : (Element.readAll cs).2 with
      | nil =>
        have hquote : after = '"' :: rest := by simpa [hnil] using heq
        rw [hquote] at hafter
        simp [isInLine] at hafter
      | cons c cs' =>
        have hquote : c = '"' ∧ cs' ++ after = rest := by simpa [hnil] using heq
        exact hopen cs' (by rw [hnil, hquote.1])
    have hline : ∀ c ∈ (Element.readAll cs).2, isInLine c = true := fun c hc =>
      hcs c (hsplit ▸ List.mem_append_right _ hc)
    rw [read_of_not_closed hopen, read_of_not_closed hopen', hrun,
      faultAt_append_of_stopsAt hline hafter, takeWhile_append_of_stopsAt hcs hafter,
      List.takeWhile_eq_self_iff.mpr hcs]

end StringLiteral

end Lexing
