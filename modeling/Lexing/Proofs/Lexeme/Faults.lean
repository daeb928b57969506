import Lexing.Proofs.Lexeme.LongestMatch

/-!
# What is at fault

Only three of the rules make errors: string literals that are not closed, numbers, and characters
that start nothing (`Front.error_cases`).  A fault quotes some of the source.  What it quotes
without escaping it, the sequence of a literal's escape, never goes over the end of its line
(`Front.inLine`), so that it can be shown in a row of text.
-/

namespace Lexing

/-- Whether the sequence that a fault quotes, if it quotes one, is of one line. -/
def Fault.InLine : Fault → Prop
  | .invalidEscape sequence | .invalidHexEscape sequence => '\n' ∉ sequence.toList
  | _ => True

theorem StringLiteral.inLine_faultAt (rest : List Char) : (faultAt rest).InLine := by
  unfold faultAt
  split
  · next rest =>
    have hshown : '\n' ∉ (rest.take 2).takeWhile fun c => c ≠ '\n' && c ≠ '"' := by
      intro hmem
      have hline := List.mem_takeWhile_imp hmem
      cases hline
    simpa [Fault.InLine] using hshown
  · next c rest _ =>
    split
    · trivial
    · next hc => simpa [Fault.InLine] using Ne.symm hc
  · trivial

theorem Numeral.fault_cases {policy : Policy} {digits : List Char} {byteForm : Bool} {fault : Fault}
    (h : kind policy digits byteForm = .error fault) :
    ∃ lexeme, (∃ issue, fault = .malformedNumber lexeme issue) ∨
      fault = .malformedByteLiteral lexeme := by
  unfold kind at h
  split_ifs at h
  all_goals cases h
  · exact ⟨_, .inl ⟨_, rfl⟩⟩
  · exact ⟨_, .inr rfl⟩
  · exact ⟨_, .inl ⟨_, rfl⟩⟩

namespace Lexeme

variable {policy : Policy} {fault : Fault} {text after : List Char}

/-- What is at fault is a string literal, a number or an unknown character. -/
theorem Front.error_cases (h : Front policy ⟨.token (.error fault), text⟩ after) :
    (∃ body, fault = StringLiteral.faultAt (Element.readAll body).2 ∧ text = '"' :: body ∧
        (∀ c ∈ body, isInLine c = true) ∧ (∀ rest, (Element.readAll body).2 ≠ '"' :: rest) ∧
        Text.StopsAt isInLine after) ∨
      (∃ digits byteForm, Numeral.kind policy digits byteForm = .error fault ∧
        ∃ c, text.head? = some c ∧ c.isDigit = true) ∨
      ∃ c, fault = .unknownCharacter c ∧ text = [c] := by
  generalize hl : (⟨.token (.error fault), text⟩ : Lexeme) = l at h
  have hhead : ∀ {digits : List Char}, digits ≠ [] → (∀ c ∈ digits, c.isDigit = true) →
      ∀ more, ∃ c, (digits ++ more).head? = some c ∧ c.isDigit = true := by
    intro digits hne hdigits more
    obtain ⟨c, cs, rfl⟩ := List.exists_cons_of_ne_nil hne
    exact ⟨c, rfl, hdigits c List.mem_cons_self⟩
  cases h with
  | layout => cases hl
  | comment => cases hl
  | word =>
    simp only [mk.injEq, Shape.token.injEq, wordKind] at hl
    split at hl <;> cases hl.1
  | number hne hdigits =>
    simp only [mk.injEq, Shape.token.injEq] at hl
    obtain ⟨hkind, rfl⟩ := hl
    refine .inr (.inl ⟨_, _, hkind.symm, ?_⟩)
    simpa using hhead hne hdigits []
  | byteNumber hne hdigits =>
    simp only [mk.injEq, Shape.token.injEq] at hl
    obtain ⟨hkind, rfl⟩ := hl
    exact .inr (.inl ⟨_, _, hkind.symm, hhead hne hdigits _⟩)
  | string => cases hl
  | openString hbody hopen hafter =>
    cases hl
    exact .inl ⟨_, rfl, rfl, hbody, hopen, hafter⟩
  | symbol => cases hl
  | unknown =>
    cases hl
    exact .inr (.inr ⟨_, rfl, rfl⟩)

/-- A string literal at fault is what its rule says. -/
theorem Front.openString_of_isOfString (h : Front policy ⟨.token (.error fault), text⟩ after)
    (hfault : fault.isOfString = true) :
    ∃ body, fault = StringLiteral.faultAt (Element.readAll body).2 ∧ text = '"' :: body ∧
      (∀ c ∈ body, isInLine c = true) ∧ (∀ rest, (Element.readAll body).2 ≠ '"' :: rest) ∧
      Text.StopsAt isInLine after := by
  rcases h.error_cases with hopen | ⟨_, _, hkind, -⟩ | ⟨c, rfl, -⟩
  · exact hopen
  · obtain ⟨lexeme, ⟨issue, rfl⟩ | rfl⟩ := Numeral.fault_cases hkind <;> cases hfault
  · cases hfault

theorem Front.inLine (h : Front policy ⟨.token (.error fault), text⟩ after) : fault.InLine := by
  rcases h.error_cases with ⟨body, rfl, -⟩ | ⟨_, _, hkind, -⟩ | ⟨c, rfl, -⟩
  · exact StringLiteral.inLine_faultAt _
  · obtain ⟨lexeme, ⟨issue, rfl⟩ | rfl⟩ := Numeral.fault_cases hkind <;> trivial
  · trivial

theorem Front.text_eq_singleton {c : Char}
    (h : Front policy ⟨.token (.error (.unknownCharacter c)), text⟩ after) : text = [c] := by
  rcases h.error_cases with ⟨body, hfault, -⟩ | ⟨_, _, hkind, -⟩ | ⟨d, hfault, htext⟩
  · have hstring := StringLiteral.isOfString_faultAt (Element.readAll body).2
    rw [← hfault] at hstring
    cases hstring
  · obtain ⟨lexeme, ⟨issue, hfault⟩ | hfault⟩ := Numeral.fault_cases hkind <;> cases hfault
  · obtain rfl := Fault.unknownCharacter.inj hfault
    exact htext

end Lexeme

end Lexing
