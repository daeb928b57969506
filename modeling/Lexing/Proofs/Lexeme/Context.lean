import Lexing.Proofs.Lexeme.Front

/-!
# The context of a lexeme

What follows a lexeme may be exchanged as long as the rule of the lexeme still applies.  This module
says which exchanges every rule allows.

* Most rules look at the next character alone, and numbers besides at whether the suffix of byte
  literals follows: `Front.of_head?_eq`.  That is seen from two characters (`Front.of_take_two`).
* Behind the end of a line a line feed and more text may be put: only a stretch of layout characters
  that runs up to there goes on over it (`Front.append_lineFeed`).
-/

namespace Lexing

open Text

/-! ## How far the rules look -/

/-- Whether a suffix of byte literals follows is seen from two characters. -/
theorem Numeral.hasByteSuffix_eq_of_take_two {policy : Policy} {after after' : List Char}
    (htwo : after'.take 2 = after.take 2) :
    hasByteSuffix policy after' = hasByteSuffix policy after := by
  have htake : ∀ cs, hasByteSuffix policy (cs.take 2) = hasByteSuffix policy cs := by
    intro cs
    match cs with
    | [] => rfl
    | [_] => rfl
    | c :: d :: rest => by_cases hc : c = 'b' <;> simp [hasByteSuffix, hc]
  rw [← htake after', htwo, htake]

namespace Lexeme

variable {policy : Policy} {l : Lexeme} {after after' : List Char}

/-- What follows a lexeme may be exchanged for what starts with the same character, as long as no
suffix of a byte literal comes to follow. -/
theorem Front.of_head?_eq (h : Front policy l after) (hhead : after'.head? = after.head?)
    (hsuffix : Numeral.hasByteSuffix policy after = false →
      Numeral.hasByteSuffix policy after' = false) : Front policy l after' := by
  cases h with
  | layout hne htext hafter => exact .layout hne htext (hafter.of_head?_eq hhead)
  | comment hbody hafter => exact .comment hbody (hafter.of_head?_eq hhead)
  | word hc hcs hafter => exact .word hc hcs (hafter.of_head?_eq hhead)
  | number hne hdigits hafter hnone =>
    exact .number hne hdigits (hafter.of_head?_eq hhead) (hsuffix hnone)
  | byteNumber hne hdigits hafter => exact .byteNumber hne hdigits (hafter.of_head?_eq hhead)
  | string es => exact .string es after'
  | openString hbody hopen hafter => exact .openString hbody hopen (hafter.of_head?_eq hhead)
  | symbol s hafter => exact .symbol s (hafter.of_head?_eq hhead)
  | unknown hc hnone hafter => exact .unknown hc hnone (hafter.of_head?_eq hhead)

/-- No rule looks at more than two characters behind its lexeme. -/
theorem Front.of_take_two (h : Front policy l after) (htwo : after'.take 2 = after.take 2) :
    Front policy l after' := by
  have hhead := congrArg List.head? htwo
  rw [List.head?_take, List.head?_take, if_neg two_ne_zero, if_neg two_ne_zero] at hhead
  refine h.of_head?_eq hhead fun hnone => ?_
  rwa [Numeral.hasByteSuffix_eq_of_take_two htwo]

end Lexeme

/-! ## What layout ends -/

theorem Policy.continuesWord_of_isLayout (policy : Policy) {c : Char}
    (h : Lexeme.isLayout c = true) : policy.continuesWord c = false := by
  simp only [Lexeme.isLayout, Bool.or_eq_true, decide_eq_true_eq] at h
  have halphanum : c.isAlphanum = false ∧ c ≠ '_' := by
    rcases h with ((rfl | rfl) | rfl) | rfl <;> decide
  simp [Policy.continuesWord, halphanum]

/-- Where no symbol has a character of a class in it, none is extended by one, and no comment is
started. -/
theorem Symbol.isExtendedBy_eq_false {p : Char → Bool} (hp : ∀ s ∈ all, s.spelling.all (!p ·))
    {d : Char} (hd : p d = true) (text : List Char) : isExtendedBy text d = false := by
  have hnot : ∀ s : Symbol, d ∉ s.spelling := by
    intro s hmem
    have hspelling := List.all_eq_true.mp (hp s s.mem_all) d hmem
    rw [hd] at hspelling
    cases hspelling
  rw [isExtendedBy, Bool.or_eq_false_iff, decide_eq_false_iff_not]
  refine ⟨?_, fun hslash => ?_⟩
  · cases hs : ofSpelling? (text ++ [d]) with
    | none => rfl
    | some s =>
      have hmem : d ∈ text ++ [d] := List.mem_append_right _ List.mem_cons_self
      rw [← spelling_of_ofSpelling? hs] at hmem
      exact absurd hmem (hnot s)
  · have hmem : d ∈ ['/', '/'] := by rw [← hslash]; simp
    obtain rfl : d = '/' := by simpa using hmem
    exact hnot (.arithmetic .slash) List.mem_cons_self

theorem Symbol.isExtendedBy_of_isLayout (text : List Char) {d : Char}
    (h : Lexeme.isLayout d = true) : isExtendedBy text d = false :=
  isExtendedBy_eq_false (by decide) h text

theorem Numeral.hasByteSuffix_of_isLayout {policy : Policy} {c : Char}
    (h : Lexeme.isLayout c = true) (rest : List Char) :
    hasByteSuffix policy (c :: rest) = false := by
  by_contra hsuffix
  obtain ⟨tail, htail, -⟩ := hasByteSuffix_iff.mp (by simpa using hsuffix)
  obtain ⟨rfl, -⟩ := List.cons.inj htail
  cases h

/-- A text that does not start with a suffix does not start with one either when what follows it is
exchanged; a `b` alone was held back by the word that went on behind it, so there no word may have
gone on. -/
theorem Numeral.hasByteSuffix_append_of_stopsAt {policy : Policy} {text after : List Char}
    (hne : text ≠ []) (h : hasByteSuffix policy (text ++ after) = false)
    (hafter : text.head? = some 'b' → StopsAt policy.continuesWord after) (after' : List Char) :
    hasByteSuffix policy (text ++ after') = false := by
  by_contra hsuffix
  obtain ⟨tail, htail, hstops⟩ := hasByteSuffix_iff.mp (by simpa using hsuffix)
  obtain ⟨c, cs, rfl⟩ := List.exists_cons_of_ne_nil hne
  rw [List.cons_append] at htail
  obtain ⟨rfl, rfl⟩ := List.cons.inj htail
  -- where no word went on behind the exchanged text, none went on before
  rw [List.cons_append,
    hasByteSuffix_iff.mpr ⟨cs ++ after, rfl, hstops.of_append.append (hafter rfl)⟩] at h
  cases h

theorem Numeral.hasByteSuffix_append_lineFeed {policy : Policy} {after : List Char}
    (h : hasByteSuffix policy after = false) (rest : List Char) :
    hasByteSuffix policy (after ++ '\n' :: rest) = false := by
  by_cases hne : after = []
  · subst hne
    exact hasByteSuffix_of_isLayout rfl rest
  · rw [← List.append_nil after] at h
    exact hasByteSuffix_append_of_stopsAt hne h (fun _ => stopsAt_nil) _

namespace Lexeme

/-- A lexeme that stands at the front of a text still stands there when a line feed and more text
are put behind; unless it is layout, which goes on over the line feed. -/
theorem Front.append_lineFeed {policy : Policy} {l : Lexeme} {after : List Char}
    (h : Front policy l after) (hl : l.shape ≠ .trivia .whitespace) (rest : List Char) :
    Front policy l (after ++ '\n' :: rest) := by
  have hword : StopsAt policy.continuesWord ('\n' :: rest) :=
    stopsAt_cons.mpr (policy.continuesWord_of_isLayout rfl)
  have hsymbol : ∀ text, StopsAt (Symbol.isExtendedBy text) ('\n' :: rest) :=
    fun text => stopsAt_cons.mpr (Symbol.isExtendedBy_of_isLayout text rfl)
  cases h with
  | layout => exact absurd rfl hl
  | comment hbody hafter => exact .comment hbody (hafter.append (stopsAt_cons.mpr rfl))
  | word hc hcs hafter => exact .word hc hcs (hafter.append hword)
  | number hne hdigits hafter hsuffix =>
    exact .number hne hdigits (hafter.append (stopsAt_cons.mpr rfl))
      (Numeral.hasByteSuffix_append_lineFeed hsuffix rest)
  | byteNumber hne hdigits hafter => exact .byteNumber hne hdigits (hafter.append hword)
  | string es => exact .string es _
  | openString hbody hopen hafter =>
    exact .openString hbody hopen (hafter.append (stopsAt_cons.mpr rfl))
  | symbol s hafter => exact .symbol s (hafter.append (hsymbol _))
  | unknown hc hnone hafter => exact .unknown hc hnone (hafter.append (hsymbol _))

theorem Front.isLayout_of_mem {policy : Policy} {l : Lexeme} {after : List Char}
    (h : Front policy l after) (hl : l.shape = .trivia .whitespace) :
    ∀ c ∈ l.text, isLayout c = true := by
  cases h with
  | layout _ htext _ => exact htext
  | _ => cases hl

theorem Front.stopsAt_isLayout {policy : Policy} {kind : Kind Fault} {text after : List Char}
    (h : Front policy ⟨.token kind, text⟩ after) (rest : List Char) :
    StopsAt isLayout (text ++ rest) := by
  have hnext := h.next?_eq_some
  obtain ⟨c, cs, rfl⟩ := List.exists_cons_of_ne_nil (text_ne_nil_of_next? hnext)
  rw [List.cons_append, stopsAt_cons]
  by_contra hlayout
  -- layout at the front would have been recognised as such
  rw [List.cons_append, next?, first_of_isLayout _ (by simpa using hlayout)] at hnext
  cases hnext

end Lexeme

end Lexing
