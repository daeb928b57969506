import Lexing.Proofs.Literal.Decimal
import Lexing.Proofs.Scan.Placement
import Lexing.Proofs.Scan.Tiling

/-!
# A more permissive policy

When rules of the policy are relaxed, words get longer: an underscore joins what stands at its two
sides, and takes the suffix away from a byte literal before it.  The scans under the two policies
then come out of step, and a lexeme of the one need not be one of the other.

They come out of step only inside a *run*, a longest stretch of the characters with which a word
goes on under the permissive policy.  No lexeme under either policy starts in a run and ends behind
it (`FaultBehind.append_run`), so both scans meet again where it ends.  Under the permissive policy
a run is one word, or a number with at most a word behind it, so that nothing in it is at fault but
a number at its start, and this one is at fault under the strict policy as well
(`faultBehind_run`).  Outside of runs the policy makes no difference (`Front.of_relaxesTo`).

So nothing is at fault under the permissive policy where nothing is under the strict one
(`FaultBehind.of_relaxesTo`).
-/

namespace Lexing

open Text

/-- The second policy is the first with some of its rules relaxed. -/
structure Policy.RelaxesTo (p q : Policy) : Prop where
  leadingZeros : p.allowLeadingZeros = true → q.allowLeadingZeros = true
  keywordCase : p.ignoreKeywordCase = true → q.ignoreKeywordCase = true
  underscores : p.allowUnderscores = true → q.allowUnderscores = true

namespace Policy

variable {p q : Policy} {c : Char}

theorem RelaxesTo.startsWord (h : p.RelaxesTo q) (hc : p.startsWord c = true) :
    q.startsWord c = true := by
  simp only [Policy.startsWord, Bool.or_eq_true, Bool.and_eq_true] at hc ⊢
  exact hc.imp_right (And.imp_left h.underscores)

theorem RelaxesTo.continuesWord (h : p.RelaxesTo q) (hc : p.continuesWord c = true) :
    q.continuesWord c = true := by
  simp only [Policy.continuesWord, Bool.or_eq_true, Bool.and_eq_true] at hc ⊢
  exact hc.imp_right (And.imp_left h.underscores)

theorem RelaxesTo.stopsAt (h : p.RelaxesTo q) {after : List Char}
    (hafter : StopsAt q.continuesWord after) : StopsAt p.continuesWord after := by
  intro c hc
  have hq := hafter c hc
  cases hp : p.continuesWord c with
  | false => rfl
  | true =>
    rw [h.continuesWord hp] at hq
    cases hq

theorem startsWord_of_continuesWord (hc : p.continuesWord c = true) (hdigit : c.isDigit = false) :
    p.startsWord c = true := by
  simpa [Policy.continuesWord, Policy.startsWord, Char.isAlphanum, hdigit] using hc

theorem continuesWord_eq_false (hword : p.startsWord c = false) (hdigit : c.isDigit = false) :
    p.continuesWord c = false := by
  by_contra hc
  rw [startsWord_of_continuesWord (by simpa using hc) hdigit] at hword
  cases hword

end Policy

/-! ## Numbers at fault -/

namespace Numeral

variable {p q policy : Policy} {digits : List Char}

/-- The largest number that digits may stand for, with or without the suffix of byte literals. -/
def limit (byteForm : Bool) : ℕ :=
  if byteForm then byteLimit else numberLimit

theorem isError_kind_iff {byteForm : Bool} :
    (kind policy digits byteForm).isError = true ↔
      (hasLeadingZero digits && !policy.allowLeadingZeros) = true ∨
        limit byteForm < value digits := by
  rw [kind, limit]
  cases hasLeadingZero digits && !policy.allowLeadingZeros with
  | true => simp [Kind.isError]
  | false =>
    cases byteForm with
    | true => by_cases h : value digits ≤ byteLimit <;> simp [Kind.isError, ← Nat.not_le, h]
    | false => by_cases h : value digits ≤ numberLimit <;> simp [Kind.isError, ← Nat.not_le, h]

theorem limit_le {byteForm byteForm' : Bool} (h : byteForm' = true → byteForm = true) :
    limit byteForm ≤ limit byteForm' := by
  revert h
  cases byteForm <;> cases byteForm' <;> decide

/-- A number that is at fault under the permissive policy is so under the strict one, where it may
have a suffix that it lacks under the other. -/
theorem isError_kind_of_relaxesTo (hpq : p.RelaxesTo q) {byteForm byteForm' : Bool}
    (hform : byteForm' = true → byteForm = true)
    (h : (kind q digits byteForm').isError = true) : (kind p digits byteForm).isError = true := by
  rw [isError_kind_iff] at h ⊢
  rcases h with hzero | hlimit
  · rw [refusesZero_iff] at hzero ⊢
    refine .inl ⟨hzero.1, ?_⟩
    cases hp : p.allowLeadingZeros with
    | false => rfl
    | true => exact absurd (hpq.leadingZeros hp) (by simp [hzero.2])
  · exact .inr (Nat.lt_of_le_of_lt (limit_le hform) hlimit)

theorem hasByteSuffix_of_relaxesTo (hpq : p.RelaxesTo q) {rest : List Char}
    (h : hasByteSuffix q rest = true) : hasByteSuffix p rest = true := by
  obtain ⟨after, rfl, hafter⟩ := hasByteSuffix_iff.mp h
  exact hasByteSuffix_iff.mpr ⟨after, rfl, hpq.stopsAt hafter⟩

end Numeral

namespace Lexeme

variable {p q policy : Policy} {l : Lexeme} {after before run : List Char}

/-! ## Where something is at fault -/

/-- Whether the lexeme is a token at fault. -/
def isFault (l : Lexeme) : Bool :=
  match l.shape with
  | .token kind => kind.isError
  | .trivia _ => false

/-- Among the lexemes of the text there is one at fault, and the text before it is `before`. -/
def FaultBehind (policy : Policy) (cs before : List Char) : Prop :=
  ∃ ls l ls', lexemes policy cs = ls ++ l :: ls' ∧ textOf ls = before ∧ l.isFault = true

theorem not_faultBehind_nil : ¬FaultBehind policy [] before := by
  rintro ⟨ls, l, ls', hls, -, -⟩
  rw [lexemes_nil] at hls
  simp at hls

/-- What is at fault is the lexeme at the front, or is at fault in the text behind it. -/
theorem faultBehind_iff_of_front (h : Front policy l after) :
    FaultBehind policy (l.text ++ after) before ↔
      (before = [] ∧ l.isFault = true) ∨
        ∃ rest, before = l.text ++ rest ∧ FaultBehind policy after rest := by
  rw [FaultBehind, lexemes_of_front h]
  constructor
  · rintro ⟨ls, m, ls', hls, rfl, hm⟩
    cases ls with
    | nil =>
      obtain ⟨rfl, -⟩ := List.cons.inj hls
      exact .inl ⟨rfl, hm⟩
    | cons _ ls =>
      obtain ⟨rfl, hrest⟩ := List.cons.inj hls
      exact .inr ⟨textOf ls, rfl, ls, m, ls', hrest, rfl, hm⟩
  · rintro (⟨rfl, hl⟩ | ⟨rest, rfl, ls, m, ls', hls, rfl, hm⟩)
    · exact ⟨[], l, _, rfl, rfl, hl⟩
    · exact ⟨l :: ls, m, ls', by rw [hls]; rfl, rfl, hm⟩

theorem isFault_word (policy : Policy) (text : List Char) :
    isFault ⟨.token (wordKind policy text), text⟩ = false := by
  rw [isFault, wordKind]
  cases keyword? policy text <;> rfl

/-! ## Runs -/

theorem Front.continuesWord_of_mem (h : Front p l after) (hpq : p.RelaxesTo q)
    (hhead : ∀ c ∈ l.text.head?, q.continuesWord c = true) :
    ∀ c ∈ l.text, q.continuesWord c = true := by
  -- the other rules apply to characters with which no word goes on
  have hfirst : ∀ {c cs}, l.text = c :: cs → q.startsWord c = false → c.isDigit = false →
      False := by
    intro c cs htext hword hdigit
    have hc := hhead c (by rw [htext]; rfl)
    rw [Policy.continuesWord_eq_false hword hdigit] at hc
    cases hc
  cases h with
  | @layout text _ hne htext _ =>
    obtain ⟨c, cs, rfl⟩ := List.exists_cons_of_ne_nil hne
    have hc := htext c List.mem_cons_self
    exact (hfirst rfl (startsWord_eq_false_of_isLayout hc) (isDigit_eq_false_of_isLayout hc)).elim
  | comment => exact (hfirst rfl (startsWord_eq_false (by decide) (by decide)) rfl).elim
  | word hc hcs =>
    intro d hd
    rcases List.mem_cons.mp hd with rfl | hd
    · exact hpq.continuesWord (Policy.continuesWord_of_startsWord hc)
    · exact hpq.continuesWord (hcs d hd)
  | number _ hdigits => exact fun c hc => q.continuesWord_of_isDigit (hdigits c hc)
  | byteNumber _ hdigits =>
    intro c hc
    rcases List.mem_append.mp hc with hc | hc
    · exact q.continuesWord_of_isDigit (hdigits c hc)
    · obtain rfl := List.mem_singleton.mp hc
      rfl
  | string => exact (hfirst rfl (startsWord_eq_false (by decide) (by decide)) rfl).elim
  | openString => exact (hfirst rfl (startsWord_eq_false (by decide) (by decide)) rfl).elim
  | symbol s =>
    obtain ⟨c, cs, hcs⟩ := List.exists_cons_of_ne_nil s.spelling_ne_nil
    have hmark : IsMark q c := isMark_of_spelling hcs
    exact (hfirst hcs hmark.word hmark.digit).elim
  | unknown =>
    intro d hd
    obtain rfl := List.mem_singleton.mp hd
    exact hhead d rfl

theorem Front.exists_append_of_run {rest : List Char} (h : Front p l rest) (hpq : p.RelaxesTo q)
    (hne : run ≠ []) (hrun : ∀ c ∈ run, q.continuesWord c = true)
    (hafter : StopsAt q.continuesWord after) (hsplit : run ++ after = l.text ++ rest) :
    ∃ more, run = l.text ++ more ∧ rest = more ++ after := by
  have hhead : ∀ c ∈ l.text.head?, q.continuesWord c = true := by
    intro c hc
    have hboth := congrArg List.head? hsplit
    rw [List.head?_append_of_ne_nil _ hne,
      List.head?_append_of_ne_nil _ (text_ne_nil_of_next? h.next?_eq_some)] at hboth
    exact hrun c (List.mem_of_mem_head? (hboth ▸ hc))
  have htext := h.continuesWord_of_mem hpq hhead
  rcases List.append_eq_append_iff.mp hsplit with ⟨beyond, hbeyond, rfl⟩ | ⟨more, hmore, rfl⟩
  · -- what the lexeme took of the text behind the run would go on the run
    cases beyond with
    | nil => exact ⟨[], by simpa using hbeyond.symm, by simp⟩
    | cons c beyond =>
      have hstop : q.continuesWord c = false := by simpa using hafter
      rw [htext c (by rw [hbeyond]; simp)] at hstop
      cases hstop
  · exact ⟨more, hmore, rfl⟩

/-- The scan under the strict policy comes to the end of a run, and finds there what it would find
without it. -/
theorem FaultBehind.append_run (h : FaultBehind p after before) (hpq : p.RelaxesTo q)
    (hrun : ∀ c ∈ run, q.continuesWord c = true) (hafter : StopsAt q.continuesWord after) :
    FaultBehind p (run ++ after) (run ++ before) := by
  induction hn : run.length using Nat.strongRecOn generalizing run with
  | ind n ih =>
    subst hn
    cases hcons : run with
    | nil => exact h
    | cons c cs =>
      obtain ⟨l, rest, hsplit, hfront⟩ := exists_front p c (cs ++ after)
      rw [← List.cons_append, ← hcons] at hsplit
      obtain ⟨more, rfl, rfl⟩ :=
        hfront.exists_append_of_run hpq (by simp [hcons]) hrun hafter hsplit
      have hpos := List.length_pos_iff.mpr (text_ne_nil_of_next? hfront.next?_eq_some)
      have hmore : ∀ d ∈ more, q.continuesWord d = true := fun d hd =>
        hrun d (List.mem_append_right _ hd)
      rw [← hcons, List.append_assoc, List.append_assoc, faultBehind_iff_of_front hfront]
      exact .inr ⟨_, rfl, ih _ (by rw [List.length_append]; omega) hmore rfl⟩

/-- A run that starts with no digit is a word of the permissive policy. -/
theorem faultBehind_word (hrun : ∀ c ∈ run, q.continuesWord c = true)
    (hdigit : StopsAt Char.isDigit run) (hafter : StopsAt q.continuesWord after)
    (h : FaultBehind q (run ++ after) before) :
    ∃ rest, before = run ++ rest ∧ FaultBehind q after rest := by
  cases run with
  | nil => exact ⟨before, rfl, h⟩
  | cons c cs =>
    have hc := Policy.startsWord_of_continuesWord (hrun c List.mem_cons_self)
      (stopsAt_cons.mp hdigit)
    have hword := Front.word hc (fun d hd => hrun d (List.mem_cons_of_mem c hd)) hafter
    rcases (faultBehind_iff_of_front hword).mp h with ⟨-, hfault⟩ | hrest
    · rw [isFault_word] at hfault
      cases hfault
    · exact hrest

/-- What is at fault in a run under the permissive policy is a number at its start, and under the
strict policy there is one at fault in its place. -/
theorem faultBehind_run (hpq : p.RelaxesTo q) (hrun : ∀ c ∈ run, q.continuesWord c = true)
    (hafter : StopsAt q.continuesWord after) (h : FaultBehind q (run ++ after) before) :
    (before = [] ∧ FaultBehind p (run ++ after) []) ∨
      ∃ rest, before = run ++ rest ∧ FaultBehind q after rest := by
  obtain ⟨digits, more, rfl, hdigits, hmore⟩ := exists_stretch Char.isDigit run
  by_cases hne : digits = []
  · subst hne
    exact .inr (faultBehind_word hrun hmore hafter h)
  have hrest : StopsAt Char.isDigit (more ++ after) := hmore.append (stopsAt_isDigit hafter)
  obtain ⟨after', hsplit, hstops, hfront⟩ := exists_front_of_digits q hne hdigits hrest
  obtain ⟨behind, hbehind, rfl⟩ := hfront.exists_append_of_run ⟨id, id, id⟩ (by simp [hne]) hrun
    hafter (by rw [List.append_assoc, hsplit])
  rw [hbehind, List.append_assoc, faultBehind_iff_of_front hfront] at h
  rcases h with ⟨rfl, hfault⟩ | ⟨rest, rfl, hfault⟩
  · obtain ⟨after'', hsplit', -, hfront'⟩ := exists_front_of_digits p hne hdigits hrest
    refine .inl ⟨rfl, ?_⟩
    rw [List.append_assoc, hsplit', faultBehind_iff_of_front hfront']
    exact .inl ⟨rfl, Numeral.isError_kind_of_relaxesTo hpq
      (Numeral.hasByteSuffix_of_relaxesTo hpq) hfault⟩
  · -- the rest of the run is a word
    have hword : ∀ c ∈ behind, q.continuesWord c = true := fun c hc =>
      hrun c (hbehind ▸ List.mem_append_right _ hc)
    obtain ⟨rest', rfl, hrest'⟩ := faultBehind_word hword hstops.of_append hafter hfault
    exact .inr ⟨rest', by rw [hbehind, List.append_assoc], hrest'⟩

/-! ## Outside of runs -/

/-- Where the permissive policy finds what no word goes on with, the strict one finds the same. -/
theorem Front.of_relaxesTo (h : Front q l after) (hpq : p.RelaxesTo q)
    (hhead : ∀ c ∈ l.text.head?, q.continuesWord c = false) : Front p l after := by
  have hnoDigit : ∀ {digits more : List Char}, digits ≠ [] → (∀ c ∈ digits, c.isDigit = true) →
      l.text = digits ++ more → False := by
    intro digits more hne hdigits htext
    obtain ⟨c, cs, rfl⟩ := List.exists_cons_of_ne_nil hne
    have hc := hhead c (by rw [htext]; rfl)
    rw [q.continuesWord_of_isDigit (hdigits c List.mem_cons_self)] at hc
    cases hc
  cases h with
  | layout hne htext hafter => exact .layout hne htext hafter
  | comment hbody hafter => exact .comment hbody hafter
  | @word c _ _ hc _ _ =>
    have hstop := hhead c rfl
    rw [Policy.continuesWord_of_startsWord hc] at hstop
    cases hstop
  | number hne hdigits => exact (hnoDigit hne hdigits (List.append_nil _).symm).elim
  | byteNumber hne hdigits => exact (hnoDigit hne hdigits rfl).elim
  | string es => exact .string es after
  | openString hbody hopen hafter => exact .openString hbody hopen hafter
  | symbol s hafter => exact .symbol s hafter
  | @unknown c _ hc hnone hafter =>
    have hword : p.startsWord c = false := by
      by_contra hp
      have hq := hpq.startsWord (by simpa using hp)
      rw [hc.word] at hq
      cases hq
    exact .unknown ⟨hc.layout, hword, hc.digit, hc.quote⟩ hnone hafter

/-- **What is at fault under the permissive policy is at fault under the strict one.**  There is a
lexeme at fault in the same place, though what it is and how long may differ. -/
theorem FaultBehind.of_relaxesTo {cs : List Char} (h : FaultBehind q cs before)
    (hpq : p.RelaxesTo q) : FaultBehind p cs before := by
  induction hn : cs.length using Nat.strongRecOn generalizing cs before with
  | ind n ih =>
    subst hn
    cases cs with
    | nil => exact absurd h not_faultBehind_nil
    | cons c cs =>
      by_cases hc : q.continuesWord c = true
      · obtain ⟨run, after, rfl, hcs, hafter⟩ := exists_stretch q.continuesWord cs
        have hrun : ∀ d ∈ c :: run, q.continuesWord d = true := by simpa [hc] using hcs
        rw [← List.cons_append] at h ⊢
        rcases faultBehind_run hpq hrun hafter h with ⟨rfl, hp⟩ | ⟨rest, rfl, hrest⟩
        · exact hp
        · have hlt : after.length < (c :: (run ++ after)).length := by
            rw [List.length_cons, List.length_append]
            omega
          exact (ih _ hlt hrest rfl).append_run hpq hrun hafter
      · obtain ⟨l, after, hsplit, hfront⟩ := exists_front q c cs
        have hpos := List.length_pos_iff.mpr (text_ne_nil_of_next? hfront.next?_eq_some)
        have hhead : l.text.head? = some c := by
          have hboth := congrArg List.head? hsplit
          rw [List.head?_append_of_ne_nil _ (List.length_pos_iff.mp hpos)] at hboth
          exact hboth.symm
        have hfront' := hfront.of_relaxesTo hpq (by simpa [hhead] using hc)
        rw [hsplit, faultBehind_iff_of_front hfront] at h
        rw [hsplit] at ih ⊢
        rw [faultBehind_iff_of_front hfront']
        refine h.imp_right fun ⟨rest, hbefore, hrest⟩ => ⟨rest, hbefore, ih _ ?_ hrest rfl⟩
        rw [List.length_append]
        omega

/-! ## Tokens at fault -/

theorem isFault_lexeme (t : Token) : (Item.token t).lexeme.isFault = t.error?.isSome := by
  rw [Token.error?, Kind.isSome_error?]
  exact Kind.isError_map _ t.kind

theorem exists_token_of_isFault (h : l.isFault = true) (file : String) (line : UInt32)
    (offset : ℕ) : ∃ t, l.place file line offset = .token t ∧ t.error?.isSome = true := by
  rcases l with ⟨kind | kind, text⟩
  · cases h
  · refine ⟨_, rfl, ?_⟩
    rw [← isFault_lexeme]
    rw [← lexeme_place ⟨.token kind, text⟩ file line offset] at h
    exact h

end Lexeme

/-- An error token starts at a position exactly if something is at fault behind as many bytes. -/
theorem exists_error_token_iff {source : String} {file : Option String} {policy : Policy}
    {position : Position} :
    (∃ t ∈ tokenize source file policy, t.error?.isSome = true ∧ t.span.start = position) ↔
      ∃ before, Lexeme.FaultBehind policy source.toList before ∧
        position = ⟨utf8Length before, file.getD Scanner.unnamed⟩ := by
  constructor
  · rintro ⟨t, ht, herror, rfl⟩
    obtain ⟨before, after, hitems⟩ := List.append_of_mem (mem_tokenize.mp ht)
    have hlexemes : Lexeme.lexemes policy source.toList = _ :=
      (Scanner.map_lexeme_items _).symm.trans (congrArg (List.map Item.lexeme) hitems)
    rw [List.map_append, List.map_cons] at hlexemes
    refine ⟨Item.textOf before, ⟨_, _, _, hlexemes, Item.textOf_map_lexeme before, ?_⟩, ?_⟩
    · rw [Lexeme.isFault_lexeme, herror]
    · rw [(Scanner.pulls_of_items_eq hitems).token_of_start.1, Item.utf8Length_textOf]
  · rintro ⟨before, ⟨ls, l, ls', hls, rfl, hl⟩, rfl⟩
    have hitems := Scanner.items_start source file policy
    rw [hls, Lexeme.placeAll_append, Lexeme.placeAll_cons] at hitems
    obtain ⟨t, hplace, herror⟩ := Lexeme.exists_token_of_isFault hl (file.getD Scanner.unnamed)
      (1 + UInt32.ofNat ((Lexeme.textOf ls).count '\n')) (0 + utf8Length (Lexeme.textOf ls))
    rw [hplace] at hitems
    refine ⟨t, mem_tokenize.mpr ?_, herror, ?_⟩
    · rw [hitems]
      exact List.mem_append_right _ List.mem_cons_self
    · rw [(Lexeme.token_of_place hplace).1, Nat.zero_add]

/-- **A more permissive policy adds no errors.**  When rules of the policy are relaxed, every error
token starts where an error token started before; a source that had none has none. -/
theorem relaxed_policy_adds_no_error (source : String) (file : Option String) {p q : Policy}
    (hpq : p.RelaxesTo q) :
    (∀ t ∈ tokenize source file q, t.error?.isSome = true →
        ∃ u ∈ tokenize source file p, u.error?.isSome = true ∧ u.span.start = t.span.start) ∧
      ((∀ u ∈ tokenize source file p, u.error? = none) →
        ∀ t ∈ tokenize source file q, t.error? = none) := by
  have hcovered : ∀ t ∈ tokenize source file q, t.error?.isSome = true →
      ∃ u ∈ tokenize source file p, u.error?.isSome = true ∧ u.span.start = t.span.start := by
    intro t ht herror
    obtain ⟨before, hfault, hposition⟩ := exists_error_token_iff.mp ⟨t, ht, herror, rfl⟩
    exact exists_error_token_iff.mpr ⟨before, hfault.of_relaxesTo hpq, hposition⟩
  refine ⟨hcovered, fun hnone t ht => ?_⟩
  by_contra herror
  obtain ⟨u, hu, hsome, -⟩ := hcovered t ht (Option.isSome_iff_ne_none.mpr herror)
  rw [hnone u hu] at hsome
  cases hsome

/-- The underscore takes the suffix away from a byte literal that is too large, and the number that
is left is too large as well. -/
theorem relaxed_policy_adds_no_error_byte_suffix :
    (Policy.strict).RelaxesTo ⟨false, false, true⟩ ∧
      (∃ t ∈ tokenize "a_017 2147483648b_x" none ⟨false, false, true⟩,
        t.error?.isSome = true) ∧
      ∀ t ∈ tokenize "a_017 2147483648b_x" none ⟨false, false, true⟩, t.error?.isSome = true →
        ∃ u ∈ tokenize "a_017 2147483648b_x" none .strict,
          u.error?.isSome = true ∧ u.span.start = t.span.start := by
  have hpq : (Policy.strict).RelaxesTo ⟨false, false, true⟩ := ⟨by decide, by decide, by decide⟩
  refine ⟨hpq, ?_, (relaxed_policy_adds_no_error _ none hpq).1⟩
  decide +kernel

end Lexing
