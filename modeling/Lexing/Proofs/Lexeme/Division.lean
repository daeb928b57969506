import Lexing.Proofs.Lexeme.Context

/-!
# Dividing a text into lexemes

`IsDivision policy ls` says of lexemes that follow one another that each of them stands at the front
of the text that it and those behind it make up.  It looks at every lexeme in its place and at none
on the way to it, and `lexemes_eq_iff` says that it describes the division of a text: the lexemes of
a text are the only ones that make it up and are divided so.

A division does not depend on more of the text than it has to.  `IsDivision.of_append` drops
lexemes in front, which leave no trace.  `IsDivision.exchange` exchanges what is behind: the rules
look at no more than two characters behind a lexeme (`Front.of_take_two`), so the lexemes before a
place stay as they are as long as these two characters do.
-/

namespace Lexing.Lexeme

variable {policy : Policy}

/-- The text of lexemes that follow one another. -/
def textOf (ls : List Lexeme) : List Char :=
  ls.flatMap Lexeme.text

@[simp] theorem textOf_nil : textOf [] = [] := rfl

@[simp] theorem textOf_cons (l : Lexeme) (ls : List Lexeme) :
    textOf (l :: ls) = l.text ++ textOf ls := rfl

@[simp] theorem textOf_append (ls ls' : List Lexeme) :
    textOf (ls ++ ls') = textOf ls ++ textOf ls' := by
  simp [textOf]

theorem textOf_lexemes (cs : List Char) : textOf (lexemes policy cs) = cs :=
  flatMap_text_lexemes policy cs

/-- Each of the lexemes stands at the front of the text that it and those behind it make up. -/
inductive IsDivision (policy : Policy) : List Lexeme → Prop
  | nil : IsDivision policy []
  | cons {l : Lexeme} {ls : List Lexeme} (hl : Front policy l (textOf ls))
      (hls : IsDivision policy ls) : IsDivision policy (l :: ls)

theorem lexemes_of_front {l : Lexeme} {after : List Char} (h : Front policy l after) :
    lexemes policy (l.text ++ after) = l :: lexemes policy after := by
  rw [lexemes_of_next? h.next?_eq_some, List.drop_left]

theorem isDivision_lexemes (cs : List Char) : IsDivision policy (lexemes policy cs) := by
  induction hn : cs.length using Nat.strongRecOn generalizing cs with
  | ind n ih =>
    subst hn
    cases h : next? policy cs with
    | none =>
      rw [next?_eq_none_iff.mp h, lexemes_nil]
      exact .nil
    | some l =>
      have hlt := length_drop_lt_of_next? h
      obtain ⟨after, rfl, hfront⟩ := exists_front_of_next? h
      rw [List.drop_left] at hlt
      rw [lexemes_of_front hfront]
      refine .cons ?_ (ih _ hlt after rfl)
      rwa [textOf_lexemes]

theorem IsDivision.lexemes_textOf {ls : List Lexeme} (h : IsDivision policy ls) :
    lexemes policy (textOf ls) = ls := by
  induction h with
  | nil => exact lexemes_nil policy
  | cons hl _ ih => rw [textOf_cons, lexemes_of_front hl, ih]

/-- **Divisions are unique.**  The lexemes of a text are the ones that make it up and stand, each of
them, at the front of what is left of it. -/
theorem lexemes_eq_iff {cs : List Char} {ls : List Lexeme} :
    lexemes policy cs = ls ↔ textOf ls = cs ∧ IsDivision policy ls := by
  constructor
  · rintro rfl
    exact ⟨textOf_lexemes cs, isDivision_lexemes cs⟩
  · rintro ⟨rfl, h⟩
    exact h.lexemes_textOf

namespace IsDivision

variable {l : Lexeme} {ls ls₁ ls₂ : List Lexeme}

/-- What is behind some of the lexemes is divided by itself as it is with them. -/
theorem of_append (h : IsDivision policy (ls ++ ls₁)) : IsDivision policy ls₁ := by
  induction ls with
  | nil => exact h
  | cons l ls ih =>
    cases h with
    | cons _ hls => exact ih hls

theorem front_of_append (h : IsDivision policy (ls ++ l :: ls₁)) :
    Front policy l (textOf ls₁) := by
  cases h.of_append with
  | cons hl _ => exact hl

theorem exists_front_of_mem (h : IsDivision policy ls) (hl : l ∈ ls) :
    ∃ after, Front policy l after := by
  obtain ⟨before, behind, rfl⟩ := List.append_of_mem hl
  exact ⟨_, h.front_of_append⟩

/-- What is behind some of the lexemes may be exchanged for other lexemes if the text of these
starts with the same two characters. -/
theorem exchange (h : IsDivision policy (ls ++ ls₁)) (h₂ : IsDivision policy ls₂)
    (htwo : (textOf ls₂).take 2 = (textOf ls₁).take 2) : IsDivision policy (ls ++ ls₂) := by
  induction ls with
  | nil => exact h₂
  | cons l ls ih =>
    cases h with
    | cons hl hls =>
      refine .cons (hl.of_take_two ?_) (ih hls)
      have htext : ∀ more, textOf (ls.append more) = textOf ls ++ textOf more := textOf_append ls
      rw [htext, htext, List.take_append, List.take_append]
      congr 1
      -- of the exchanged text no more than two characters are in view
      have hview : ∀ n ≤ 2, (textOf ls₂).take n = (textOf ls₁).take n := by
        intro n hn
        have hshort := congrArg (List.take n) htwo
        rwa [List.take_take, List.take_take, Nat.min_eq_left hn] at hshort
      exact hview _ (Nat.sub_le _ _)

end IsDivision

end Lexing.Lexeme
