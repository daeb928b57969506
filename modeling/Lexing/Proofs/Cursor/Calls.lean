import Lexing.Proofs.Cursor.Eating
import Lexing.Proofs.Scan.Behind

/-!
# A cursor follows its text

A cursor is used by calls, and however these are mixed, its answers depend on one thing: how much of
the source is behind it.  A `Cut` is a text in two parts, and `Cut.cursor` is the cursor that stands
between them, with the counts that belong to the part behind.  `Answers` says, by the two parts
alone, what a call gives and where it leads: looking does not move the cut, a character that is
passed goes from the front of what is ahead to the end of what is behind, and so does all that is
eaten.

`answer_eq_iff` has it that the cursor at a cut does this and nothing else.  By induction on the
calls, a cursor that was fresh in a source stands at a cut of this source after any of them
(`exists_afterCalls`), and nothing that was behind it is ahead again.

The offsets that it has had on the way are the lengths of what it had behind it.  So the source can
be cut at any two of them, and the slice is what was passed from the one to the other
(`Cut.slice?_of_hasHad`).
-/

namespace Lexing

namespace Cursor

/-! ## Calls -/

/-- What can be asked of a cursor. -/
inductive Call where
  /-- To show the next character. -/
  | peek
  /-- To show the character after the next one. -/
  | peekSecond
  /-- To pass the next character. -/
  | advance
  /-- To show the text between two byte offsets. -/
  | slice (start stop : ℕ)
  /-- To pass what a predicate accepts. -/
  | eatWhile (p : Predicate)

/-- What comes back from a call. -/
inductive Reply where
  /-- The character that is shown or passed; none where there is none. -/
  | char (char : Option Char)
  /-- The text that is shown; none where it is refused. -/
  | text (text : Option String)
  /-- The characters that the predicate was asked about, in the order of the questions. -/
  | asked (chars : List Char)
deriving DecidableEq, Repr

/-- Answers one call.  With the reply comes the cursor behind it, which the predicate has moved as
it is, without a record of its questions. -/
def answer (c : Cursor) : Call → Reply × Cursor
  | .peek => (.char c.peek?, c)
  | .peekSecond => (.char c.peekSecond?, c)
  | .advance => (.char c.peek?, c.advance)
  | .slice start stop => (.text (c.slice? start stop), c)
  | .eatWhile p => (.asked (p.asked c), (c.eatWhile p.accepts p.memory).2)

/-- The cursor behind calls that are made in order. -/
def afterCalls (c : Cursor) : List Call → Cursor
  | [] => c
  | call :: calls => (c.answer call).2.afterCalls calls

theorem afterCalls_append (c : Cursor) (first second : List Call) :
    c.afterCalls (first ++ second) = (c.afterCalls first).afterCalls second := by
  induction first generalizing c with
  | nil => rfl
  | cons call first ih => exact ih (c.answer call).2

/-! ## Cuts -/

/-- A text in two parts, with a place between them. -/
structure Cut where
  behind : List Char
  ahead : List Char

namespace Cut

/-- The place before the first character. -/
def atStart (source : String) : Cut := ⟨[], source.toList⟩

/-- The text that is cut. -/
def text (cut : Cut) : List Char := cut.behind ++ cut.ahead

/-- The cursor that stands at the place. -/
def cursor (cut : Cut) : Cursor :=
  ⟨cut.text, cut.ahead, Text.utf8Length cut.behind, 1 + UInt32.ofNat (cut.behind.count '\n')⟩

theorem cursor_atStart (source : String) : (atStart source).cursor = start source := rfl

theorem behind_cursor (cut : Cut) : cut.cursor.Behind cut.behind := ⟨rfl, rfl, rfl⟩

end Cut

theorem Behind.eq_cursor {c : Cursor} {behind : List Char} (h : c.Behind behind) :
    c = (Cut.mk behind c.rest).cursor :=
  calc
    c = ⟨c.source, c.rest, c.offset, c.line⟩ := rfl
    _ = (Cut.mk behind c.rest).cursor := by
      rw [h.source_eq, h.offset_eq, h.line_eq]
      rfl

namespace Cut

variable {cut cut' : Cut} {source : String} {behind passed ahead : List Char} {p q : ℕ}

theorem cursor_inj : cut.cursor = cut'.cursor ↔ cut = cut' := by
  constructor
  · intro h
    obtain ⟨htext, hahead, -, -⟩ := Cursor.mk.inj h
    obtain ⟨behind, ahead⟩ := cut
    obtain ⟨behind', ahead'⟩ := cut'
    obtain rfl : ahead = ahead' := hahead
    obtain rfl : behind = behind' := List.append_cancel_right htext
    rfl
  · rintro rfl
    rfl

/-- Advancing moves the place over the text that is passed. -/
theorem cursor_advanceBy :
    (Cut.mk behind (passed ++ ahead)).cursor.advanceBy passed.length =
      (Cut.mk (behind ++ passed) ahead).cursor := by
  have hahead : (Cut.mk behind (passed ++ ahead)).cursor.rest = passed ++ ahead := rfl
  have hbehind := (behind_cursor ⟨behind, passed ++ ahead⟩).advanceBy passed.length
  rw [hahead, List.take_left] at hbehind
  rw [hbehind.eq_cursor, rest_advanceBy, hahead, List.drop_left]

/-! ### The counts -/

theorem offset_le (h : cut.text = source.toList) : cut.cursor.offset ≤ source.utf8ByteSize := by
  rw [← Text.utf8Length_toList, ← h, text, Text.utf8Length_append]
  exact Nat.le_add_right _ _

theorem isValid_offset (h : cut.text = source.toList) :
    (String.Pos.Raw.mk cut.cursor.offset).IsValid source := by
  refine String.Pos.Raw.isValid_iff_exists_append.mpr
    ⟨String.ofList cut.behind, String.ofList cut.ahead, ?_, ?_⟩
  · rw [← String.ofList_append, ← text, h, String.ofList_toList]
  · rw [String.rawEndPos, Text.utf8ByteSize_ofList]
    rfl

theorem line_eq (h : cut.text = source.toList)
    (hlines : source.toList.count '\n' < UInt32.size - 1) :
    cut.cursor.line.toNat = 1 + cut.behind.count '\n' := by
  refine cut.behind_cursor.line_toNat (Nat.lt_of_le_of_lt ?_ hlines)
  rw [← h]
  exact cut.behind_cursor.count_le

/-! ### Slices between offsets that the cursor has had -/

theorem slice?_eq_some {text : List Char}
    (h : Text.StandsBetween p q text cut.text) :
    cut.cursor.slice? p q = some (String.ofList text) := by
  have hslice : Text.slice? p q cut.cursor.source = some text := Text.slice?_eq_some_iff.mpr h
  rw [slice?, hslice, Option.map_some]

theorem slice?_eq_none (h : ∀ text, ¬Text.StandsBetween p q text cut.text) :
    cut.cursor.slice? p q = none := by
  have hslice : Text.slice? p q cut.cursor.source = none := Text.slice?_eq_none_iff.mpr h
  rw [slice?, hslice, Option.map_none]

/-- The offset is one that a cursor has had when it stands at the cut: some of what is behind was
once all that was behind, and it has so many bytes. -/
def HasHad (cut : Cut) (offset : ℕ) : Prop :=
  ∃ passed, passed <+: cut.behind ∧ Text.utf8Length passed = offset

/-- Between two offsets that were had stands what was passed from the one to the other. -/
theorem slice?_of_hasHad (hp : cut.HasHad p) (hq : cut.HasHad q) (hpq : p ≤ q) :
    ∃ before between, before ++ between <+: cut.behind ∧ Text.utf8Length before = p ∧
      Text.utf8Length (before ++ between) = q ∧
      cut.cursor.slice? p q = some (String.ofList between) := by
  obtain ⟨before, ⟨rest, hrest⟩, rfl⟩ := hp
  obtain ⟨upTo, ⟨rest', hrest'⟩, rfl⟩ := hq
  obtain ⟨between, rfl, rfl⟩ := Text.exists_between (hrest.trans hrest'.symm) hpq
  refine ⟨before, between, ⟨rest', hrest'⟩, rfl, rfl, slice?_eq_some ?_⟩
  exact ⟨before, rest' ++ cut.ahead, by rw [text, ← hrest', List.append_assoc _ rest'], rfl, rfl⟩

end Cut

/-! ## Answers -/

/-- What a call gives at a cut, and the cut to which it leads. -/
inductive Answers : Cut → Call → Reply → Cut → Prop
  | peek {cut : Cut} : Answers cut .peek (.char cut.ahead[0]?) cut
  | peekSecond {cut : Cut} : Answers cut .peekSecond (.char cut.ahead[1]?) cut
  | advance {behind ahead : List Char} {char : Char} :
      Answers ⟨behind, char :: ahead⟩ .advance (.char (some char)) ⟨behind ++ [char], ahead⟩
  /-- At the end nothing is passed. -/
  | atEnd {behind : List Char} : Answers ⟨behind, []⟩ .advance (.char none) ⟨behind, []⟩
  | slice {cut : Cut} {start stop : ℕ} {text : List Char}
      (h : Text.StandsBetween start stop text cut.text) :
      Answers cut (.slice start stop) (.text (some (String.ofList text))) cut
  /-- A slice is refused only where the offsets enclose no text. -/
  | refused {cut : Cut} {start stop : ℕ}
      (h : ∀ text, ¬Text.StandsBetween start stop text cut.text) :
      Answers cut (.slice start stop) (.text none) cut
  /-- The predicate is asked about what is eaten and about the character that stops it. -/
  | eatWhile {behind eaten rest : List Char} {p : Predicate}
      (h : Eats p.accepts p.memory eaten rest) :
      Answers ⟨behind, eaten ++ rest⟩ (.eatWhile p) (.asked (eaten ++ rest.take 1))
        ⟨behind ++ eaten, rest⟩

namespace Answers

variable {cut next : Cut} {call : Call} {reply : Reply}

theorem text_eq (h : Answers cut call reply next) : next.text = cut.text := by
  cases h with
  | peek | peekSecond | atEnd | slice | refused => rfl
  | advance | eatWhile => simp [Cut.text]

theorem behind_prefix (h : Answers cut call reply next) : cut.behind <+: next.behind := by
  cases h with
  | peek | peekSecond | atEnd | slice | refused => exact List.prefix_rfl
  | advance | eatWhile => exact List.prefix_append _ _

/-- What a call gives at a cut is what the cursor there answers. -/
theorem answer_eq (h : Answers cut call reply next) :
    cut.cursor.answer call = (reply, next.cursor) := by
  cases h with
  | peek =>
    rw [answer, peek?, List.head?_eq_getElem?]
    rfl
  | peekSecond =>
    rw [answer, peekSecond?, List.head?_tail]
    rfl
  | advance =>
    rw [← Cut.cursor_advanceBy]
    rfl
  | atEnd => rfl
  | slice h => rw [answer, Cut.slice?_eq_some h]
  | refused h => rw [answer, Cut.slice?_eq_none h]
  | eatWhile h => rw [answer, h.asked_eq rfl, h.eatWhile_eq rfl, Cut.cursor_advanceBy]

end Answers

/-- At every cut there is an answer to every call. -/
theorem exists_answers (cut : Cut) (call : Call) : ∃ reply next, Answers cut call reply next := by
  cases call with
  | peek => exact ⟨_, _, .peek⟩
  | peekSecond => exact ⟨_, _, .peekSecond⟩
  | advance =>
    obtain ⟨behind, ahead⟩ := cut
    cases ahead with
    | nil => exact ⟨_, _, .atEnd⟩
    | cons char ahead => exact ⟨_, _, .advance⟩
  | slice start stop =>
    by_cases h : ∃ text, Text.StandsBetween start stop text cut.text
    · obtain ⟨text, h⟩ := h
      exact ⟨_, _, .slice h⟩
    · exact ⟨_, _, .refused (not_exists.mp h)⟩
  | eatWhile p =>
    obtain ⟨behind, ahead⟩ := cut
    obtain ⟨eaten, rest, rfl, h⟩ := exists_eats p.accepts p.memory ahead
    exact ⟨_, _, .eatWhile h⟩

/-- `Answers` is what the cursors at the cuts do, no more and no less. -/
theorem answer_eq_iff {cut next : Cut} {call : Call} {reply : Reply} :
    cut.cursor.answer call = (reply, next.cursor) ↔ Answers cut call reply next := by
  constructor
  · intro h
    obtain ⟨reply', next', h'⟩ := exists_answers cut call
    obtain ⟨rfl, hnext⟩ := Prod.mk.inj (h'.answer_eq.symm.trans h)
    rwa [Cut.cursor_inj.mp hnext] at h'
  · exact Answers.answer_eq

/-! ## Calls in any order -/

/-- After any calls the cursor stands at a cut of the same text, and what was behind it still is. -/
theorem exists_afterCalls (cut : Cut) (calls : List Call) :
    ∃ next : Cut, cut.cursor.afterCalls calls = next.cursor ∧ next.text = cut.text ∧
      cut.behind <+: next.behind := by
  induction calls generalizing cut with
  | nil => exact ⟨cut, rfl, rfl, List.prefix_rfl⟩
  | cons call calls ih =>
    obtain ⟨reply, middle, hanswer⟩ := exists_answers cut call
    obtain ⟨next, hafter, htext, hbehind⟩ := ih middle
    refine ⟨next, ?_, htext.trans hanswer.text_eq, hanswer.behind_prefix.trans hbehind⟩
    rw [afterCalls, hanswer.answer_eq, hafter]

/-- The offset after the first of some calls is one that the cursor has had after all of them. -/
theorem hasHad_afterCalls {cut last : Cut} {first calls : List Call} (h : first <+: calls)
    (hlast : cut.cursor.afterCalls calls = last.cursor) :
    last.HasHad (cut.cursor.afterCalls first).offset := by
  obtain ⟨second, rfl⟩ := h
  -- what is behind after the first calls is still behind after the others
  obtain ⟨middle, hmiddle, -, -⟩ := exists_afterCalls cut first
  obtain ⟨next, hnext, -, hbehind⟩ := exists_afterCalls middle second
  rw [afterCalls_append, hmiddle, hnext] at hlast
  obtain rfl := Cut.cursor_inj.mp hlast
  rw [hmiddle]
  exact ⟨middle.behind, hbehind, rfl⟩

/-- **A cursor follows its text.**  After any calls in any order, a cursor that was fresh in a
source stands at a cut of this source.  Its offset is at most the length of the source and not
inside a character; the slices up to it and from it on are the text behind and the text ahead; and
its line is the one that the line feeds behind it make.  There it answers every call as `Answers`
says.  A predicate is asked one question more than there are characters eaten, or as many where the
end is reached, and what it remembers of these questions is what it is left with.  The cursor has
had the offset after each of the calls, and between two offsets that it has had, on the way through
what it ate as well, the slice is never refused and is the text that it passed from the one to the
other. -/
theorem calls_follow_text (source : String) (calls : List Call)
    (hlines : source.toList.count '\n' < UInt32.size - 1) :
    ∃ cut : Cut, cut.text = source.toList ∧ (start source).afterCalls calls = cut.cursor ∧
      (cut.cursor.offset ≤ source.utf8ByteSize ∧
        (String.Pos.Raw.mk cut.cursor.offset).IsValid source ∧
        cut.cursor.slice? 0 cut.cursor.offset = some (String.ofList cut.behind) ∧
        cut.cursor.slice? cut.cursor.offset source.utf8ByteSize =
          some (String.ofList cut.ahead) ∧
        cut.cursor.line.toNat = 1 + cut.behind.count '\n') ∧
      (∀ call, (∃ reply next, Answers cut call reply next) ∧ ∀ reply next,
        cut.cursor.answer call = (reply, next.cursor) ↔ Answers cut call reply next) ∧
      (∀ p : Predicate, ∃ eaten rest, cut.ahead = eaten ++ rest ∧
        cut.cursor.eatWhile p.accepts p.memory =
          (remembered p.accepts p.memory (p.asked cut.cursor),
            (Cut.mk (cut.behind ++ eaten) rest).cursor) ∧
        (p.asked cut.cursor).length = eaten.length + if rest = [] then 0 else 1) ∧
      (∀ first, first <+: calls → cut.HasHad ((start source).afterCalls first).offset) ∧
      ∀ p q, cut.HasHad p → cut.HasHad q → p ≤ q →
        ∃ before between, before ++ between <+: cut.behind ∧ Text.utf8Length before = p ∧
          Text.utf8Length (before ++ between) = q ∧
          cut.cursor.slice? p q = some (String.ofList between) := by
  rw [← Cut.cursor_atStart]
  obtain ⟨cut, hcut, htext, -⟩ := exists_afterCalls (Cut.atStart source) calls
  have hbehind : Text.StandsBetween 0 cut.cursor.offset cut.behind cut.text :=
    ⟨[], cut.ahead, rfl, rfl, rfl⟩
  have hahead : Text.StandsBetween cut.cursor.offset source.utf8ByteSize cut.ahead cut.text := by
    refine ⟨cut.behind, [], (List.append_nil _).symm, rfl, ?_⟩
    rw [← Text.utf8Length_toList]
    exact congrArg Text.utf8Length htext
  refine ⟨cut, htext, hcut, ⟨Cut.offset_le htext, Cut.isValid_offset htext,
    Cut.slice?_eq_some hbehind, Cut.slice?_eq_some hahead, Cut.line_eq htext hlines⟩,
    fun call => ⟨exists_answers cut call, fun _ _ => answer_eq_iff⟩, ?_, ?_, ?_⟩
  · intro p
    obtain ⟨behind, ahead⟩ := cut
    obtain ⟨eaten, rest, rfl, h⟩ := exists_eats p.accepts p.memory ahead
    refine ⟨eaten, rest, rfl, ?_, h.length_asked rfl⟩
    rw [h.eatWhile_eq rfl, h.asked_eq rfl, Cut.cursor_advanceBy]
  · intro first hfirst
    exact hasHad_afterCalls hfirst hcut
  · intro p q hp hq hpq
    exact Cut.slice?_of_hasHad hp hq hpq


/-- A predicate that accepts twice eats a character of two bytes and a line feed, and the next
character is passed without a question. -/
theorem calls_follow_text_multibyte :
    "é\nb=".toList.count '\n' < UInt32.size - 1 ∧
      let calls : List Call :=
        [.peekSecond, .eatWhile ⟨ℕ, fun n _ => (n < 2, n + 1), 0⟩, .slice 0 2, .advance]
      let cut : Cut := ⟨['é', '\n', 'b'], ['=']⟩
      (start "é\nb=").afterCalls calls = cut.cursor ∧
        (String.Pos.Raw.mk cut.cursor.offset).IsValid "é\nb=" ∧
        cut.cursor.line.toNat = 1 + cut.behind.count '\n' ∧
        ∀ first, first <+: calls → cut.HasHad ((start "é\nb=").afterCalls first).offset := by
  refine ⟨by decide, ?_⟩
  intro calls cut
  have heats : Eats (fun (n : ℕ) (_ : Char) => (decide (n < 2), n + 1)) 0 ['é', '\n']
      ['b', '='] := by simp
  have hcut : (start "é\nb=").afterCalls calls = cut.cursor := by
    simp only [calls, afterCalls, answer]
    rw [heats.eatWhile_eq rfl]
    rfl
  obtain ⟨reached, -, hreached, ⟨-, hvalid, -, -, hline⟩, -, -, hhad, -⟩ :=
    calls_follow_text "é\nb=" calls (by decide)
  obtain rfl : reached = cut := Cut.cursor_inj.mp (hreached.symm.trans hcut)
  exact ⟨hcut, hvalid, hline, hhad⟩

end Cursor

end Lexing
