import Lexing.Text.Utf8
import Mathlib.Data.List.Basic

/-!
# Slices of text

A slice is asked for by two byte offsets.  `StandsBetween` says which text they enclose: the source
is cut in three, and the offsets are where the cuts are.  It neither counts characters nor looks for
the offsets.

`slice?_eq_some_iff` has it that a slice is this text and nothing else, so that a slice is refused
exactly where the source cannot be cut at both offsets in their order.  Two texts that the source
starts with always make such a cut, since the one with fewer bytes is the start of the other
(`exists_between`).
-/

namespace Lexing.Text

variable {before after before' after' text cs : List Char} {start stop offset n : ℕ}

/-- Of two cuts of a text, the one with fewer bytes in front comes first, and there is text between
them. -/
theorem exists_between (h : before ++ after = before' ++ after')
    (hle : utf8Length before ≤ utf8Length before') :
    ∃ between, before' = before ++ between ∧ after = between ++ after' := by
  rcases List.append_eq_append_iff.mp h with hbetween | ⟨more, rfl, rfl⟩
  · exact hbetween
  · -- the cuts are the same, since the first text in front is not longer than the second
    rw [utf8Length_append] at hle
    obtain rfl := utf8Length_eq_zero_iff.mp (by omega : utf8Length more = 0)
    exact ⟨[], by simp, by simp⟩

/-- A text is cut in two at a byte offset in one way only. -/
theorem append_inj_of_utf8Length (h : before ++ after = before' ++ after')
    (hlength : utf8Length before = utf8Length before') : before = before' ∧ after = after' := by
  obtain ⟨between, rfl, rfl⟩ := exists_between h (Nat.le_of_eq hlength)
  rw [utf8Length_append] at hlength
  obtain rfl := utf8Length_eq_zero_iff.mp (by omega : utf8Length between = 0)
  exact ⟨(List.append_nil before).symm, rfl⟩

/-- Where a number of characters is found, the text is cut behind so many. -/
theorem exists_of_charIndex?_eq_some (h : charIndex? offset cs = some n) :
    ∃ before after, cs = before ++ after ∧ utf8Length before = offset ∧ before.length = n := by
  suffices hgo : ∀ seen, charIndex?.go seen offset cs = some n →
      ∃ before after, cs = before ++ after ∧ utf8Length before = offset ∧
        seen + before.length = n by
    obtain ⟨before, after, hcs, hoffset, hn⟩ := hgo 0 h
    exact ⟨before, after, hcs, hoffset, by omega⟩
  clear h
  induction cs generalizing offset with
  | nil =>
    intro seen h
    cases offset with
    | zero => exact ⟨[], [], rfl, rfl, Option.some.inj h⟩
    | succ _ => cases h
  | cons c cs ih =>
    intro seen h
    cases offset with
    | zero => exact ⟨[], c :: cs, rfl, rfl, Option.some.inj h⟩
    | succ rest =>
      rw [charIndex?.go] at h
      split at h
      · obtain ⟨before, after, rfl, hoffset, hn⟩ := ih (seen + 1) h
        refine ⟨c :: before, after, rfl, ?_, ?_⟩
        · rw [utf8Length_cons]
          omega
        · rw [List.length_cons]
          omega
      · cases h

/-- The text stands in `cs` from the byte at `start` up to the byte at `stop`. -/
def StandsBetween (start stop : ℕ) (text cs : List Char) : Prop :=
  ∃ before after, cs = before ++ text ++ after ∧ utf8Length before = start ∧
    utf8Length (before ++ text) = stop

theorem slice?_eq_some_iff :
    slice? start stop cs = some text ↔ StandsBetween start stop text cs := by
  constructor
  · intro h
    simp only [slice?, Option.bind_eq_bind, Option.bind_eq_some_iff] at h
    obtain ⟨first, hfirst, last, hlast, h⟩ := h
    obtain ⟨before, after, hbefore, rfl, rfl⟩ := exists_of_charIndex?_eq_some hfirst
    obtain ⟨upTo, rest, rfl, rfl, rfl⟩ := exists_of_charIndex?_eq_some hlast
    split at h
    · next hle =>
      obtain ⟨between, rfl, rfl⟩ := exists_between hbefore.symm hle
      rw [List.take_left, List.drop_left] at h
      obtain rfl := Option.some.inj h
      exact ⟨before, rest, rfl, rfl, rfl⟩
    · cases h
  · rintro ⟨before, after, rfl, rfl, rfl⟩
    rw [utf8Length_append, slice?_append]

theorem slice?_eq_none_iff :
    slice? start stop cs = none ↔ ∀ text, ¬StandsBetween start stop text cs := by
  rw [Option.eq_none_iff_forall_not_mem]
  exact forall_congr' fun _ => not_congr slice?_eq_some_iff

end Lexing.Text
