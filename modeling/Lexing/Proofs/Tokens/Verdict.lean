import Lexing.Proofs.Lexeme.LongestMatch
import Lexing.Proofs.Literal.Decimal
import Lexing.Proofs.Scan.Placement

/-!
# What the policy says of a token

Of the three rules that a policy leaves open, only the one about underscores has a say in where a
token ends.  The other two are asked when the text of the token is already there: whether its digits
may start with a zero, and whether its letters may be capitals.  They pass a verdict on the text and
do not touch it.

`Rejudged p q l l'` says that `l'` is what `q` makes of the lexeme that is `l` under `p`: the text
is the same, and so is everything but the kind of a word or of a number.  Each rule of recognition
has such a counterpart under the other policy, before the same text (`Front.exists_rejudged`), so
the divisions of a text under both are in step (`IsDivision.exists_rejudged`), and so are the scans.

What becomes of the tokens is said by three relations on items.  `Item.Aligned` is all that holds
for both rules at once; `Item.ZeroAllowed` and `Item.CaseIgnored` say for each of them which tokens
change, and into what.
-/

namespace Lexing

open Text

/-! ## The same words -/

section Words

variable {p q : Policy} (hpq : p.allowUnderscores = q.allowUnderscores)

include hpq

theorem Policy.startsWord_eq_of_allowUnderscores : p.startsWord = q.startsWord := by
  funext c
  simp only [Policy.startsWord, hpq]

theorem Policy.continuesWord_eq_of_allowUnderscores : p.continuesWord = q.continuesWord := by
  funext c
  simp only [Policy.continuesWord, hpq]

theorem Numeral.hasByteSuffix_eq_of_allowUnderscores (rest : List Char) :
    hasByteSuffix p rest = hasByteSuffix q rest := by
  rw [Bool.eq_iff_iff, hasByteSuffix_iff, hasByteSuffix_iff,
    Policy.continuesWord_eq_of_allowUnderscores hpq]

end Words

/-! ## Numbers by their value -/

namespace Numeral

/-- What digits are by the number that they stand for and nothing else, with the suffix of byte
literals or without it. -/
inductive ByValue (digits : List Char) : Bool → Kind Fault → Prop
  | number {v : Int32} (hlimit : decimalValue digits ≤ 2147483647)
      (hv : v.toInt = decimalValue digits) : ByValue digits false (.number v)
  | largeNumber (hlimit : 2147483647 < decimalValue digits) :
      ByValue digits false (.error (.malformedNumber (String.ofList digits) .outOfRange))
  | byteNumber {v : UInt8} (hlimit : decimalValue digits ≤ 255)
      (hv : v.toNat = decimalValue digits) : ByValue digits true (.byteNumber v)
  | largeByte (hlimit : 255 < decimalValue digits) :
      ByValue digits true (.error (.malformedByteLiteral (String.ofList (digits ++ ['b']))))

theorem byValue_kind {policy : Policy} (hzeros : policy.allowLeadingZeros = true)
    (digits : List Char) (byteForm : Bool) :
    ByValue digits byteForm (kind policy digits byteForm) := by
  rw [kind_of_not_refused fun _ => hzeros]
  cases byteForm with
  | false =>
    rw [if_neg Bool.false_ne_true]
    by_cases hlimit : decimalValue digits ≤ 2147483647
    · rw [if_pos hlimit]
      exact .number hlimit (Int32.toInt_ofNat_of_lt (Nat.lt_succ_of_le hlimit))
    · rw [if_neg hlimit]
      exact .largeNumber (Nat.lt_of_not_le hlimit)
  | true =>
    rw [if_pos rfl]
    by_cases hlimit : decimalValue digits ≤ 255
    · rw [if_pos hlimit]
      exact .byteNumber hlimit (UInt8.toNat_ofNat_of_lt (Nat.lt_succ_of_le hlimit))
    · rw [if_neg hlimit]
      exact .largeByte (Nat.lt_of_not_le hlimit)

theorem kind_cases {p q : Policy} (hstrict : p.allowLeadingZeros = false)
    (hzeros : q.allowLeadingZeros = true) (digits : List Char) (byteForm : Bool) :
    kind p digits byteForm =
        .error (.malformedNumber (String.ofList (text digits byteForm)) .leadingZero) ∨
      kind p digits byteForm = kind q digits byteForm ∧
        ∀ lexeme, kind q digits byteForm ≠ .error (.malformedNumber lexeme .leadingZero) := by
  by_cases hzero : NeedlessZero digits
  · exact .inl (by rw [kind, if_pos (refusesZero_iff.mpr ⟨hzero, hstrict⟩)])
  · refine .inr ⟨?_, fun lexeme hkind => ?_⟩
    · rw [kind_of_not_refused fun h => absurd h hzero, kind_of_not_refused fun _ => hzeros]
    · have hvalue := byValue_kind hzeros digits byteForm
      rw [hkind] at hvalue
      cases hvalue

end Numeral

namespace Lexeme

variable {p q policy : Policy} {l l' : Lexeme} {ls ls' : List Lexeme} {after : List Char}

/-! ## The same text under another policy -/

/-- What the lexeme is under `p`, the second one is under `q`.  Only words and numbers are judged.
-/
inductive Rejudged (p q : Policy) : Lexeme → Lexeme → Prop
  | same {l : Lexeme} (hword : l.shape ≠ .token .identifier)
      (hnumber : ∀ lexeme issue, l.shape ≠ .token (.error (.malformedNumber lexeme issue))) :
      Rejudged p q l l
  | word (text : List Char) :
      Rejudged p q ⟨.token (wordKind p text), text⟩ ⟨.token (wordKind q text), text⟩
  | number {digits : List Char} (hdigits : ∀ c ∈ digits, c.isDigit = true) (byteForm : Bool) :
      Rejudged p q ⟨.token (Numeral.kind p digits byteForm), Numeral.text digits byteForm⟩
        ⟨.token (Numeral.kind q digits byteForm), Numeral.text digits byteForm⟩

theorem Rejudged.text_eq (h : Rejudged p q l l') : l'.text = l.text := by
  cases h <;> rfl

/-- Every lexeme has a counterpart before the same text. -/
theorem Front.exists_rejudged (h : Front p l after)
    (hpq : p.allowUnderscores = q.allowUnderscores) :
    ∃ l', Front q l' after ∧ Rejudged p q l l' := by
  have hstarts := Policy.startsWord_eq_of_allowUnderscores hpq
  have hcontinues := Policy.continuesWord_eq_of_allowUnderscores hpq
  cases h with
  | layout hne htext hafter => exact ⟨_, .layout hne htext hafter, .same nofun nofun⟩
  | comment hbody hafter => exact ⟨_, .comment hbody hafter, .same nofun nofun⟩
  | word hc hcs hafter =>
    rw [hstarts] at hc
    rw [hcontinues] at hcs hafter
    exact ⟨_, .word hc hcs hafter, .word _⟩
  | number hne hdigits hafter hsuffix =>
    rw [Numeral.hasByteSuffix_eq_of_allowUnderscores hpq] at hsuffix
    exact ⟨_, .number hne hdigits hafter hsuffix, .number hdigits false⟩
  | byteNumber hne hdigits hafter =>
    rw [hcontinues] at hafter
    exact ⟨_, .byteNumber hne hdigits hafter, .number hdigits true⟩
  | string es => exact ⟨_, .string es after, .same nofun nofun⟩
  | @openString body _ hbody hopen hafter =>
    refine ⟨_, .openString hbody hopen hafter, .same nofun fun lexeme issue hshape => ?_⟩
    -- the fault is one of a string literal
    have hstring := StringLiteral.isOfString_faultAt (Element.readAll body).2
    rw [Kind.error.inj (Shape.token.inj hshape)] at hstring
    cases hstring
  | symbol s hafter => exact ⟨_, .symbol s hafter, .same nofun nofun⟩
  | unknown hc hnone hafter =>
    exact ⟨_, .unknown ⟨hc.layout, hstarts ▸ hc.word, hc.digit, hc.quote⟩ hnone hafter,
      .same nofun nofun⟩

/-- The lexemes of a text are judged one by one, each where it is. -/
theorem IsDivision.exists_rejudged (h : IsDivision p ls)
    (hpq : p.allowUnderscores = q.allowUnderscores) :
    ∃ ls', IsDivision q ls' ∧ textOf ls' = textOf ls ∧ List.Forall₂ (Rejudged p q) ls ls' := by
  induction h with
  | nil => exact ⟨[], .nil, rfl, .nil⟩
  | cons hl _ ih =>
    obtain ⟨ls', hdivision, htext, hjudged⟩ := ih
    obtain ⟨l', hfront, hl'⟩ := hl.exists_rejudged hpq
    rw [← htext] at hfront
    refine ⟨l' :: ls', .cons hfront hdivision, ?_, .cons hl' hjudged⟩
    rw [textOf_cons, textOf_cons, hl'.text_eq, htext]

/-- The lexemes of a text under two policies are in step. -/
theorem forall₂_rejudged (hpq : p.allowUnderscores = q.allowUnderscores) (cs : List Char) :
    List.Forall₂ (Rejudged p q) (lexemes p cs) (lexemes q cs) := by
  have hcs : IsDivision p (lexemes p cs) := isDivision_lexemes cs
  obtain ⟨ls', hdivision, htext, hjudged⟩ := hcs.exists_rejudged hpq
  rw [textOf_lexemes] at htext
  rwa [lexemes_eq_iff.mpr ⟨htext, hdivision⟩]

/-- Lexemes of the same texts make items in the same places. -/
theorem forall₂_placeAll {R : Lexeme → Lexeme → Prop} {S : Item → Item → Prop} {file : String}
    (htext : ∀ l l', R l l' → l'.text = l.text)
    (hplace : ∀ l l' line offset, R l l' → S (l.place file line offset) (l'.place file line offset))
    (h : List.Forall₂ R ls ls') (line : UInt32) (offset : ℕ) :
    List.Forall₂ S (placeAll file line offset ls) (placeAll file line offset ls') := by
  induction h generalizing line offset with
  | nil => exact .nil
  | cons hl _ ih =>
    rw [placeAll_cons, placeAll_cons, htext _ _ hl]
    exact .cons (hplace _ _ _ _ hl) (ih _ _)

end Lexeme

/-! ## What becomes of an item -/

/-- The number is refused because a zero stands in front that it does not need. -/
def Token.RefusedZero (t : Token) : Prop :=
  ∃ lexeme, t.kind.unplaced = .error (.malformedNumber lexeme .leadingZero)

namespace Item

/-- The two items are both tokens with the same text, line and span, or they are the same trivia. -/
inductive Aligned : Item → Item → Prop
  | token {t u : Token} (hlexeme : u.lexeme = t.lexeme) (hline : u.line = t.line)
      (hspan : u.span = t.span) : Aligned (.token t) (.token u)
  | trivia (t : Trivia) : Aligned (.trivia t) (.trivia t)

/-- The second item is what becomes of the first when zeros may stand in front of numbers: a number
that was refused for one is what it is by its value, and every other item stays the same. -/
inductive ZeroAllowed : Item → Item → Prop
  | same {i : Item} (hi : ∀ t, i = .token t → ¬t.RefusedZero) : ZeroAllowed i i
  | number {t : Token} (ht : t.RefusedZero) {digits : List Char} {byteForm : Bool}
      {kind : Kind Fault} (hdigits : ∀ c ∈ digits, c.isDigit = true)
      (hlexeme : t.lexeme.toList = Numeral.text digits byteForm)
      (hkind : Numeral.ByValue digits byteForm kind) :
      ZeroAllowed (.token t) (.token { t with kind := kind.placed t.span.start })

/-- The second item is what becomes of the first when the case of keywords is ignored: an identifier
that is a keyword in small letters is this keyword, and every other item stays the same. -/
inductive CaseIgnored : Item → Item → Prop
  | same {i : Item} (hi : ∀ t, i = .token t → t.kind = .identifier →
      ∀ k : Keyword, k.spelling.toList ≠ t.lexeme.toList.map Char.toLower) : CaseIgnored i i
  | keyword {t : Token} {k : Keyword} (ht : t.kind = .identifier)
      (hk : k.spelling.toList = t.lexeme.toList.map Char.toLower) :
      CaseIgnored (.token t) (.token { t with kind := .keyword k })

end Item

theorem Keyword.map_toLower_spelling (k : Keyword) :
    k.spelling.toList.map Char.toLower = k.spelling.toList := by
  cases k <;> decide

namespace Lexeme

variable {p q : Policy} {l l' : Lexeme} {file : String} {line : UInt32} {offset : ℕ}

theorem Rejudged.aligned (h : Rejudged p q l l') :
    Item.Aligned (l.place file line offset) (l'.place file line offset) := by
  cases h with
  | same =>
    rcases l with ⟨kind | kind, text⟩
    · exact .trivia _
    · exact .token rfl rfl rfl
  | word => exact .token rfl rfl rfl
  | number => exact .token rfl rfl rfl

theorem shape_of_place {t : Token} (h : l.place file line offset = .token t) :
    l.shape = .token t.kind.unplaced := by
  rw [← lexeme_place l file line offset, h]
  rfl

theorem wordKind_eq_of_ignoreKeywordCase (hcase : p.ignoreKeywordCase = q.ignoreKeywordCase)
    (text : List Char) : wordKind p text = wordKind q text := by
  rw [wordKind, wordKind, keyword?, keyword?, hcase]

theorem kind_eq_of_allowLeadingZeros (hzeros : p.allowLeadingZeros = q.allowLeadingZeros)
    (digits : List Char) (byteForm : Bool) :
    Numeral.kind p digits byteForm = Numeral.kind q digits byteForm := by
  rw [Numeral.kind, Numeral.kind, hzeros]

theorem wordKind_cases (policy : Policy) (text : List Char) :
    (∃ k : Keyword, k.spelling.toList = compared policy text ∧
        wordKind policy text = .keyword k) ∨
      (∀ k : Keyword, k.spelling.toList ≠ compared policy text) ∧
        wordKind policy text = .identifier := by
  rw [wordKind]
  cases hk : keyword? policy text with
  | some k => exact .inl ⟨k, keyword?_eq_some_iff.mp hk, rfl⟩
  | none =>
    refine .inr ⟨fun k hspelling => ?_, rfl⟩
    rw [keyword?_eq_some_iff.mpr hspelling] at hk
    cases hk

theorem zeroAllowed_self
    (hl : ∀ lexeme, l.shape ≠ .token (.error (.malformedNumber lexeme .leadingZero))) :
    Item.ZeroAllowed (l.place file line offset) (l.place file line offset) := by
  refine .same ?_
  rintro t ht ⟨lexeme, hkind⟩
  apply hl lexeme
  rw [shape_of_place ht, hkind]

theorem caseIgnored_self (hl : l.shape ≠ .token .identifier) :
    Item.CaseIgnored (l.place file line offset) (l.place file line offset) := by
  refine .same fun t ht hkind => absurd ?_ hl
  rw [shape_of_place ht, hkind]
  rfl

/-- A number that was refused for a zero in front is judged by its value; all else stays the same.
-/
theorem Rejudged.zeroAllowed (h : Rejudged p q l l') (hstrict : p.allowLeadingZeros = false)
    (hzeros : q.allowLeadingZeros = true) (hcase : p.ignoreKeywordCase = q.ignoreKeywordCase) :
    Item.ZeroAllowed (l.place file line offset) (l'.place file line offset) := by
  cases h with
  | same _ hnumber => exact zeroAllowed_self fun lexeme => hnumber lexeme .leadingZero
  | word text =>
    rw [wordKind_eq_of_ignoreKeywordCase hcase]
    refine zeroAllowed_self fun lexeme hshape => ?_
    rcases wordKind_cases q text with ⟨k, -, hk⟩ | ⟨-, hk⟩
    · rw [hk] at hshape
      cases hshape
    · rw [hk] at hshape
      cases hshape
  | @number digits hdigits byteForm =>
    rcases Numeral.kind_cases hstrict hzeros digits byteForm with hrefused | ⟨hkind, hne⟩
    · rw [hrefused]
      exact .number ⟨_, rfl⟩ hdigits String.toList_ofList (Numeral.byValue_kind hzeros _ _)
    · rw [hkind]
      exact zeroAllowed_self fun lexeme hshape => hne lexeme (Shape.token.inj hshape)

/-- An identifier that is a keyword in small letters becomes this keyword; all else stays the same.
-/
theorem Rejudged.caseIgnored (h : Rejudged p q l l') (hstrict : p.ignoreKeywordCase = false)
    (hcase : q.ignoreKeywordCase = true) (hzeros : p.allowLeadingZeros = q.allowLeadingZeros) :
    Item.CaseIgnored (l.place file line offset) (l'.place file line offset) := by
  cases h with
  | same hword => exact caseIgnored_self hword
  | number _ byteForm =>
    rw [kind_eq_of_allowLeadingZeros hzeros]
    refine caseIgnored_self fun hshape => ?_
    have hkind := Shape.token.inj hshape
    unfold Numeral.kind at hkind
    split_ifs at hkind
  | word text =>
    have hexact : compared p text = text := by rw [compared, hstrict, if_neg Bool.false_ne_true]
    have hsmall : compared q text = text.map Char.toLower := by rw [compared, hcase, if_pos rfl]
    rcases wordKind_cases p text with ⟨k, hk, hp⟩ | ⟨-, hp⟩
    · -- a keyword is one in small letters too
      rw [hexact] at hk
      have hq : wordKind q text = .keyword k := by
        rw [wordKind, keyword?_eq_some_iff.mpr]
        rw [hsmall, ← hk, k.map_toLower_spelling]
      rw [hp, hq]
      refine caseIgnored_self fun hshape => ?_
      cases hshape
    · rcases wordKind_cases q text with ⟨k, hk, hq⟩ | ⟨hnone, hq⟩
      · rw [hp, hq]
        rw [hsmall, ← String.toList_ofList (l := text)] at hk
        exact .keyword rfl hk
      · rw [hp, hq]
        refine .same ?_
        rintro t ht -
        obtain rfl := Item.token.inj ht
        rwa [String.toList_ofList, ← hsmall]

end Lexeme

namespace Scanner

theorem forall₂_items {p q : Policy} {S : Item → Item → Prop} (source : String)
    (file : Option String) (hpq : p.allowUnderscores = q.allowUnderscores)
    (hplace : ∀ l l' line offset, Lexeme.Rejudged p q l l' →
      S (l.place (file.getD unnamed) line offset) (l'.place (file.getD unnamed) line offset)) :
    List.Forall₂ S (start source file p).items (start source file q).items := by
  have hstep := Lexeme.forall₂_rejudged hpq source.toList
  rw [items_start, items_start]
  exact Lexeme.forall₂_placeAll (fun _ _ => Lexeme.Rejudged.text_eq) hplace hstep 1 0

/-- **Two rules of the policy move no boundary.**  Whatever is decided about zeros in front of
numbers and about the case of keywords, the items of a source are as many, with the same texts on
the same lines, and each is a token with the same span or the same trivia.  If zeros come to be
allowed, the tokens that change are those that were refused for one, and each becomes what it is by
its value.  If case comes to be ignored, they are the identifiers that are a keyword in small
letters, and each becomes this keyword. -/
theorem flags_keep_boundaries (source : String) (file : Option String) (policy : Policy) :
    (∀ zeros case : Bool,
      List.Forall₂ Item.Aligned (start source file policy).items
        (start source file
          { policy with allowLeadingZeros := zeros, ignoreKeywordCase := case }).items) ∧
    List.Forall₂ Item.ZeroAllowed
      (start source file { policy with allowLeadingZeros := false }).items
      (start source file { policy with allowLeadingZeros := true }).items ∧
    List.Forall₂ Item.CaseIgnored
      (start source file { policy with ignoreKeywordCase := false }).items
      (start source file { policy with ignoreKeywordCase := true }).items := by
  refine ⟨fun zeros case => ?_, ?_, ?_⟩
  · apply forall₂_items
    · rfl
    · exact fun l l' line offset h => h.aligned
  · apply forall₂_items
    · rfl
    · exact fun l l' line offset h => h.zeroAllowed rfl rfl rfl
  · apply forall₂_items
    · rfl
    · exact fun l l' line offset h => h.caseIgnored rfl rfl rfl

end Scanner

end Lexing
