import Lexing.Cursor

/-!
# What a cursor eats

A cursor eats what a predicate accepts, and the predicate may judge a character by all that it was
asked before.  `Eats` says how much that is: a character is judged by what is remembered of those in
front of it, all that is eaten is accepted, and the first character that is left is refused, if
there is one.  The relation speaks of text and of the predicate only.  `Eats.eatWhile_eq` has it
that a cursor eats this text, and that the predicate is asked about this text and the character
behind it; and since every text is cut so in front of the first refusal (`exists_eats`), this is
what happens with every predicate.

What a predicate remembers at last tells which questions it was asked only if it remembers them.  So
`recorded` makes it do that, which changes none of its judgements, and `Predicate.asked` is the
record that it ends with: the text that is eaten, with the refused character (`Eats.asked_eq`).
-/

namespace Lexing

namespace Cursor

variable {σ : Type} {accepts : σ → Char → Bool × σ} {memory : σ} {char : Char}
  {eaten rest : List Char} {c : Cursor}

/-! ## Judging one character after the other -/

/-- What is remembered after questions about the characters of a text, in their order. -/
def remembered (accepts : σ → Char → Bool × σ) (memory : σ) (text : List Char) : σ :=
  text.foldl (fun memory char => (accepts memory char).2) memory

@[simp] theorem remembered_nil : remembered accepts memory [] = memory := rfl

@[simp] theorem remembered_cons (text : List Char) :
    remembered accepts memory (char :: text) = remembered accepts (accepts memory char).2 text :=
  rfl

/-- Of `eaten ++ rest`, the predicate accepts the characters of `eaten` and refuses the next one. -/
structure Eats (accepts : σ → Char → Bool × σ) (memory : σ) (eaten rest : List Char) : Prop where
  accepted : ∀ before char after, eaten = before ++ char :: after →
    (accepts (remembered accepts memory before) char).1 = true
  refused : ∀ char ∈ rest.head?, (accepts (remembered accepts memory eaten) char).1 = false

@[simp] theorem eats_nil :
    Eats accepts memory [] rest ↔ ∀ char ∈ rest.head?, (accepts memory char).1 = false := by
  constructor
  · exact Eats.refused
  · intro h
    exact ⟨by simp, h⟩

@[simp] theorem eats_cons :
    Eats accepts memory (char :: eaten) rest ↔
      (accepts memory char).1 = true ∧ Eats accepts (accepts memory char).2 eaten rest := by
  constructor
  · intro h
    refine ⟨h.accepted [] char eaten rfl, ?_, h.refused⟩
    rintro before d after rfl
    exact h.accepted (char :: before) d after rfl
  · rintro ⟨hchar, h⟩
    refine ⟨?_, h.refused⟩
    intro before d after hcut
    cases before with
    | nil =>
      obtain ⟨rfl, -⟩ := List.cons.inj hcut
      exact hchar
    | cons first before =>
      obtain ⟨rfl, rfl⟩ := List.cons.inj hcut
      exact h.accepted before d after rfl

/-- In every text there is a first refusal, or none at all. -/
theorem exists_eats (accepts : σ → Char → Bool × σ) (memory : σ) (cs : List Char) :
    ∃ eaten rest, cs = eaten ++ rest ∧ Eats accepts memory eaten rest := by
  induction cs generalizing memory with
  | nil => exact ⟨[], [], rfl, by simp⟩
  | cons char cs ih =>
    by_cases hchar : (accepts memory char).1 = true
    · obtain ⟨eaten, rest, rfl, h⟩ := ih (accepts memory char).2
      exact ⟨char :: eaten, rest, rfl, eats_cons.mpr ⟨hchar, h⟩⟩
    · exact ⟨[], char :: cs, rfl, by simpa using hchar⟩

/-! ## Eating -/

theorem eatWhile_of_nil (hc : c.rest = []) : c.eatWhile accepts memory = (memory, c) := by
  rw [eatWhile]
  split <;> simp_all

theorem eatWhile_of_cons (hc : c.rest = char :: rest) :
    c.eatWhile accepts memory =
      if (accepts memory char).1 then c.advance.eatWhile accepts (accepts memory char).2
      else ((accepts memory char).2, c) := by
  rw [eatWhile]
  split
  · simp_all
  · next first _ hfirst =>
    obtain ⟨rfl, -⟩ := List.cons.inj (hfirst.symm.trans hc)
    split
    · next hjudged => rw [hjudged, if_pos rfl]
    · next hjudged => rw [hjudged, if_neg Bool.false_ne_true]

/-- The text that the predicate accepts is passed, and the questions are about it and about the
character behind it. -/
theorem Eats.eatWhile_eq (h : Eats accepts memory eaten rest) (hc : c.rest = eaten ++ rest) :
    c.eatWhile accepts memory =
      (remembered accepts memory (eaten ++ rest.take 1), c.advanceBy eaten.length) := by
  -- with each character that is eaten, the memory and the cursor move on
  induction eaten generalizing memory c with
  | nil =>
    cases rest with
    | nil => exact eatWhile_of_nil hc
    | cons char rest =>
      have hrefused : (accepts memory char).1 = false := by simpa using h
      rw [eatWhile_of_cons hc, hrefused, if_neg Bool.false_ne_true]
      rfl
  | cons char eaten ih =>
    obtain ⟨haccepted, h⟩ := eats_cons.mp h
    have hnext : c.advance.rest = eaten ++ rest := by rw [rest_advance, hc]; rfl
    rw [eatWhile_of_cons hc, haccepted, if_pos rfl, ih h hnext]
    rfl

/-! ## The questions -/

/-- The same judgements, with a record of the characters that they were about. -/
def recorded (accepts : σ → Char → Bool × σ) (memory : σ × List Char) (char : Char) :
    Bool × (σ × List Char) :=
  ((accepts memory.1 char).1, ((accepts memory.1 char).2, memory.2 ++ [char]))

theorem remembered_recorded (record text : List Char) :
    remembered (recorded accepts) (memory, record) text =
      (remembered accepts memory text, record ++ text) := by
  induction text generalizing memory record with
  | nil => simp
  | cons char text ih => simp [recorded, ih]

/-- Keeping a record changes no judgement. -/
theorem eats_recorded (record : List Char) :
    Eats (recorded accepts) (memory, record) eaten rest ↔ Eats accepts memory eaten rest := by
  induction eaten generalizing memory record with
  | nil => simp only [eats_nil, recorded]
  | cons char eaten ih => simp only [eats_cons, recorded, ih]

/-- A predicate on characters that may remember something from one question to the next. -/
structure Predicate where
  /-- What it can remember. -/
  Memory : Type
  accepts : Memory → Char → Bool × Memory
  /-- What it remembers before the first question. -/
  memory : Memory

/-- The characters that the predicate is asked about while a cursor eats, in the order of the
questions. -/
def Predicate.asked (p : Predicate) (c : Cursor) : List Char :=
  (c.eatWhile (recorded p.accepts) (p.memory, [])).1.2

/-- The questions are about what is eaten, and about the character behind it if there is one. -/
theorem Eats.asked_eq {p : Predicate} (h : Eats p.accepts p.memory eaten rest)
    (hc : c.rest = eaten ++ rest) : p.asked c = eaten ++ rest.take 1 := by
  rw [Predicate.asked, ((eats_recorded []).mpr h).eatWhile_eq hc, remembered_recorded]
  rfl

/-- There is one question more than there are characters eaten, or just as many where the end of the
text is reached. -/
theorem Eats.length_asked {p : Predicate} (h : Eats p.accepts p.memory eaten rest)
    (hc : c.rest = eaten ++ rest) :
    (p.asked c).length = eaten.length + if rest = [] then 0 else 1 := by
  rw [h.asked_eq hc]
  cases rest with
  | nil => simp
  | cons char rest => simp

end Cursor

end Lexing
