import Mathlib.Data.List.TakeWhile

/-!
# Stretches of text

A longest stretch of characters that a predicate accepts ends where the next character is refused,
or where the text ends.  `StopsAt` is this condition on what follows, and with it such a stretch can
be told from the text around it: `takeWhile_append_of_stopsAt` and `dropWhile_append_of_stopsAt` say
that the stretch is what is taken, and what follows is what is left.
-/

namespace Lexing.Text

/-- A stretch of characters that `p` accepts ends before this text. -/
def StopsAt (p : Char → Bool) (after : List Char) : Prop :=
  ∀ c ∈ after.head?, p c = false

variable {p : Char → Bool} {text after : List Char}

@[simp] theorem stopsAt_nil : StopsAt p [] := by
  simp [StopsAt]

@[simp] theorem stopsAt_cons {c : Char} : StopsAt p (c :: after) ↔ p c = false := by
  simp [StopsAt]

theorem takeWhile_append_of_stopsAt (htext : ∀ c ∈ text, p c = true) (hafter : StopsAt p after) :
    (text ++ after).takeWhile p = text := by
  rw [List.takeWhile_append_of_pos htext]
  cases after with
  | nil => rw [List.takeWhile_nil, List.append_nil]
  | cons c after => rw [List.takeWhile_cons_of_neg (by simpa using hafter), List.append_nil]

theorem dropWhile_append_of_stopsAt (htext : ∀ c ∈ text, p c = true) (hafter : StopsAt p after) :
    (text ++ after).dropWhile p = after := by
  rw [List.dropWhile_append_of_pos htext]
  cases after with
  | nil => rfl
  | cons c after => exact List.dropWhile_cons_of_neg (by simpa using hafter)

theorem stopsAt_dropWhile (cs : List Char) : StopsAt p (cs.dropWhile p) := by
  induction cs with
  | nil => simp
  | cons c cs ih =>
    rw [List.dropWhile_cons]
    split
    · exact ih
    · next hc => simpa using hc

/-- Every text is a stretch of accepted characters and text before which such a stretch ends. -/
theorem exists_stretch (p : Char → Bool) (cs : List Char) :
    ∃ text after, cs = text ++ after ∧ (∀ c ∈ text, p c = true) ∧ StopsAt p after :=
  ⟨cs.takeWhile p, cs.dropWhile p, List.takeWhile_append_dropWhile.symm,
    fun _ hc => List.mem_takeWhile_imp hc, stopsAt_dropWhile cs⟩

theorem StopsAt.append {more : List Char} (h : StopsAt p after) (hmore : StopsAt p more) :
    StopsAt p (after ++ more) := by
  cases after with
  | nil => exact hmore
  | cons c after => simpa using h

theorem StopsAt.of_append {more : List Char} (h : StopsAt p (after ++ more)) : StopsAt p after := by
  cases after with
  | nil => exact stopsAt_nil
  | cons c after => simpa using h

theorem StopsAt.of_head?_eq {after' : List Char} (h : StopsAt p after)
    (hhead : after'.head? = after.head?) : StopsAt p after' := by
  intro c hc
  rw [hhead] at hc
  exact h c hc

/-! ## Stretches of bounded length -/

theorem takeWhile_take_append {n : ℕ} (hlength : text.length ≤ n) (htext : ∀ c ∈ text, p c = true)
    (hafter : text.length = n ∨ StopsAt p after) :
    ((text ++ after).take n).takeWhile p = text := by
  rw [List.take_append, List.take_of_length_le hlength]
  refine takeWhile_append_of_stopsAt htext ?_
  rcases hafter with hfull | hstops
  · rw [hfull, Nat.sub_self, List.take_zero]
    exact stopsAt_nil
  · intro c hc
    refine hstops c ?_
    rw [List.head?_take] at hc
    split at hc
    · cases hc
    · exact hc

/-- Every text starts with a stretch of at most `n` accepted characters that ends because it is
full, or because the next character is refused. -/
theorem exists_bounded_stretch (p : Char → Bool) (n : ℕ) (cs : List Char) :
    ∃ text after, cs = text ++ after ∧ text.length ≤ n ∧ (∀ c ∈ text, p c = true) ∧
      (text.length = n ∨ StopsAt p after) := by
  obtain ⟨text, tail, hview, htext, htail⟩ := exists_stretch p (cs.take n)
  have hlength : text.length ≤ n := by
    have htake := congrArg List.length hview
    rw [List.length_take, List.length_append] at htake
    omega
  refine ⟨text, tail ++ cs.drop n, ?_, hlength, htext, ?_⟩
  · rw [← List.append_assoc, ← hview, List.take_append_drop]
  by_cases hn : n ≤ cs.length
  · cases tail with
    | nil =>
      refine .inl ?_
      have htake := congrArg List.length hview
      rw [List.length_take, List.append_nil, Nat.min_eq_left hn] at htake
      exact htake.symm
    | cons c tail => exact .inr (by simpa using htail)
  · rw [List.drop_of_length_le (by omega), List.append_nil]
    exact .inr htail

end Lexing.Text
