import Lexing.Proofs.Lexeme.Faults
import Lexing.Proofs.Lexeme.Neighbour
import Lexing.Proofs.Scan.LineLookup
import Lexing.Proofs.Tokens.Relaxation

/-!
# The underscore as a letter

Whether the underscore is a letter is asked in three places: what may start a word, what may go on
with one, and whether the `b` behind digits is a suffix, which it is not if a word goes on behind
it.  So `_1`, `a_b` and `5b_` come apart for three different reasons, and from there on two scans
need not have a lexeme in common.

What the three have in common is the underscore that the strict policy meets.  Under it an
underscore that starts a lexeme is all of it, and an error (`Front.underscore`); and one that does
not start it is in a comment or in a string literal (`Front.underscore_cases`).  A lexeme of the
strict policy therefore stays what it is unless it is such an error or stands before one
(`Front.withUnderscores`), and a text without such errors is divided in the same way under both
policies (`lexemes_withUnderscores_iff`).
-/

namespace Lexing

open Text

/-- The policy with underscores as letters. -/
def Policy.withUnderscores (policy : Policy) : Policy :=
  { policy with allowUnderscores := true }

theorem Symbol.underscore_not_mem_spelling (s : Symbol) : '_' ∉ s.spelling := by
  have hall : ∀ s ∈ all, '_' ∉ s.spelling := by decide
  exact hall s s.mem_all

theorem Policy.relaxesTo_withUnderscores (policy : Policy) :
    policy.RelaxesTo policy.withUnderscores :=
  ⟨id, id, fun _ => rfl⟩

namespace Lexeme

variable {policy : Policy} {l : Lexeme} {ls : List Lexeme} {after : List Char}

/-- An underscore that starts nothing. -/
def underscore : Lexeme := ⟨.token (.error (.unknownCharacter '_')), ['_']⟩

/-! ## Underscores under the strict policy -/

section Strict

variable (hstrict : policy.allowUnderscores = false)

include hstrict

theorem isMark_underscore : IsMark policy '_' := by
  refine ⟨rfl, ?_, rfl, by decide⟩
  rw [Policy.startsWord, hstrict]
  rfl

theorem Front.underscore (after : List Char) : Front policy underscore after := by
  have hnone : ∀ text : List Char, '_' ∈ text → Symbol.ofSpelling? text = none := by
    intro text hmem
    cases hs : Symbol.ofSpelling? text with
    | none => rfl
    | some s =>
      rw [← Symbol.spelling_of_ofSpelling? hs] at hmem
      exact absurd hmem s.underscore_not_mem_spelling
  refine .unknown (isMark_underscore hstrict) (hnone _ List.mem_cons_self) ?_
  intro d _
  rw [Symbol.isExtendedBy, List.singleton_append, hnone _ List.mem_cons_self]
  rfl

theorem Front.eq_underscore (h : Front policy l after) (hhead : l.text.head? = some '_') :
    l = Lexeme.underscore := by
  obtain ⟨cs, hcs⟩ := List.head?_eq_some_iff.mp hhead
  have hnext := h.next?_eq_some
  have hunderscore := (Front.underscore hstrict (cs ++ after)).next?_eq_some
  rw [hcs] at hnext
  exact Option.some.inj (hnext.symm.trans hunderscore)

/-- Any other underscore is in a comment or in a string literal. -/
theorem Front.underscore_cases (h : Front policy l after) (hmem : '_' ∈ l.text) :
    l.shape = .trivia .comment ∨ (∃ kind, l.shape = .token kind) ∧ l.text.head? = some '"' ∨
      l = Lexeme.underscore := by
  have hword : policy.startsWord '_' = false := (isMark_underscore hstrict).word
  cases h with
  | layout _ htext => cases htext _ hmem
  | comment => exact .inl rfl
  | word hc hcs =>
    rcases List.mem_cons.mp hmem with rfl | hmem
    · rw [hword] at hc
      cases hc
    · have hnot := Policy.continuesWord_eq_false hword rfl
      rw [hcs _ hmem] at hnot
      cases hnot
  | number _ hdigits => cases hdigits _ hmem
  | byteNumber _ hdigits =>
    rcases List.mem_append.mp hmem with hmem | hmem
    · cases hdigits _ hmem
    · cases List.mem_singleton.mp hmem
  | string => exact .inr (.inl ⟨⟨_, rfl⟩, rfl⟩)
  | openString => exact .inr (.inl ⟨⟨_, rfl⟩, rfl⟩)
  | symbol s => exact absurd hmem s.underscore_not_mem_spelling
  | unknown =>
    obtain rfl := List.mem_singleton.mp hmem
    exact .inr (.inr rfl)

end Strict

/-! ## The same lexemes under both policies -/

/-- Where no underscore follows, what does not go on with a word does not go on with one that has
underscores. -/
theorem stopsAt_withUnderscores (hafter : StopsAt policy.continuesWord after)
    (hhead : after.head? ≠ some '_') : StopsAt policy.withUnderscores.continuesWord after := by
  intro c hc
  have hne : c ≠ '_' := by
    rintro rfl
    exact hhead hc
  have hstop := hafter c hc
  simp only [Policy.continuesWord, Bool.or_eq_false_iff] at hstop ⊢
  exact ⟨hstop.1, by simp [hne]⟩

/-- A lexeme is the same with underscores as letters, if it is none and none follows it. -/
theorem Front.withUnderscores (h : Front policy l after) (hl : l ≠ Lexeme.underscore)
    (hhead : after.head? ≠ some '_') : Front policy.withUnderscores l after := by
  have hrelaxes := policy.relaxesTo_withUnderscores
  cases h with
  | layout hne htext hafter => exact .layout hne htext hafter
  | comment hbody hafter => exact .comment hbody hafter
  | word hc hcs hafter =>
    exact .word (hrelaxes.startsWord hc) (fun d hd => hrelaxes.continuesWord (hcs d hd))
      (stopsAt_withUnderscores hafter hhead)
  | number hne hdigits hafter hsuffix =>
    refine .number hne hdigits hafter ?_
    -- letters behind a `b` take the suffix away and never make it one
    by_contra htaken
    rw [Numeral.hasByteSuffix_of_relaxesTo hrelaxes (by simpa using htaken)] at hsuffix
    cases hsuffix
  | byteNumber hne hdigits hafter =>
    exact .byteNumber hne hdigits (stopsAt_withUnderscores hafter hhead)
  | string es => exact .string es after
  | openString hbody hopen hafter => exact .openString hbody hopen hafter
  | symbol s hafter => exact .symbol s hafter
  | @unknown c _ hc hnone hafter =>
    have hne : c ≠ '_' := by
      rintro rfl
      exact hl rfl
    have hword : policy.withUnderscores.startsWord c = false := by
      have hp := hc.word
      simp only [Policy.startsWord, Bool.or_eq_false_iff] at hp ⊢
      exact ⟨hp.1, by simp [hne]⟩
    exact .unknown ⟨hc.layout, hword, hc.digit, hc.quote⟩ hnone hafter

theorem IsDivision.head?_ne_underscore (h : IsDivision policy ls)
    (hstrict : policy.allowUnderscores = false) (hls : Lexeme.underscore ∉ ls) :
    (textOf ls).head? ≠ some '_' := by
  cases h with
  | nil => exact nofun
  | cons hl _ =>
    intro hhead
    rw [textOf_cons, List.head?_append_of_ne_nil _ hl.text_ne_nil] at hhead
    apply hls
    rw [hl.eq_underscore hstrict hhead]
    exact List.mem_cons_self

theorem IsDivision.withUnderscores (h : IsDivision policy ls)
    (hstrict : policy.allowUnderscores = false) (hls : Lexeme.underscore ∉ ls) :
    IsDivision policy.withUnderscores ls := by
  induction h with
  | nil => exact .nil
  | cons hl hdivision ih =>
    obtain ⟨hne, hrest⟩ := not_or.mp (mt List.mem_cons.mpr hls)
    have hhead := hdivision.head?_ne_underscore hstrict hrest
    exact .cons (hl.withUnderscores (Ne.symm hne) hhead) (ih hrest)

/-- The lexemes of a text are the same under both policies exactly if none of them is an underscore
at fault. -/
theorem lexemes_withUnderscores_iff (hstrict : policy.allowUnderscores = false) (cs : List Char) :
    lexemes policy.withUnderscores cs = lexemes policy cs ↔
      Lexeme.underscore ∉ lexemes policy cs := by
  constructor
  · intro heq hmem
    rw [← heq] at hmem
    obtain ⟨after, hfront⟩ := (isDivision_lexemes cs).exists_front_of_mem hmem
    -- as a letter the underscore is a word
    have hword : Front policy.withUnderscores
        ⟨.token (wordKind policy.withUnderscores ['_']), ['_']⟩ [] :=
      .word rfl nofun stopsAt_nil
    have hboth := hword.next?_eq_some.symm.trans hfront.at_end.next?_eq_some
    have hfault := isFault_word policy.withUnderscores ['_']
    rw [Option.some.inj hboth] at hfault
    cases hfault
  · intro hnone
    exact lexemes_eq_iff.mpr
      ⟨textOf_lexemes cs, (isDivision_lexemes cs).withUnderscores hstrict hnone⟩

end Lexeme

/-! ## Underscores in the items of a scan -/

/-- The token is an error that reports an underscore. -/
def Token.ReportsUnderscore (t : Token) : Prop :=
  ∃ e, t.error? = some e ∧ e.fault = .unknownCharacter '_'

/-- The item may hold any text at all: it is a comment, or a token that a double quote starts. -/
def Item.IsFreeText : Item → Prop
  | .token t => t.lexeme.toList.head? = some '"'
  | .trivia t => t.kind = .comment

/-- Behind the text `pre` comes the character `c`, and this one is in the item. -/
def Item.HoldsAt (items : List Item) (pre : List Char) (c : Char) (item : Item) : Prop :=
  ∃ before after head tail, items = before ++ item :: after ∧
    pre = Item.textOf before ++ head ∧ item.text.toList = head ++ c :: tail

theorem Token.reportsUnderscore_iff {t : Token} :
    t.ReportsUnderscore ↔ t.kind.unplaced = .error (.unknownCharacter '_') := by
  rcases t with ⟨kind, lexeme, line, span⟩
  cases kind with
  | error e => simp [ReportsUnderscore, error?, Kind.error?, Kind.unplaced, Kind.map]
  | _ => simp [ReportsUnderscore, error?, Kind.error?, Kind.unplaced, Kind.map]

instance (t : Token) : Decidable t.ReportsUnderscore :=
  decidable_of_iff _ Token.reportsUnderscore_iff.symm

theorem Item.exists_holdsAt {items : List Item} {pre post : List Char} {c : Char}
    (h : Item.textOf items = pre ++ c :: post) : ∃ item, Item.HoldsAt items pre c item := by
  induction items generalizing pre with
  | nil => simp at h
  | cons item items ih =>
    rw [textOf_cons] at h
    rcases List.append_eq_append_iff.mp h with ⟨rest, rfl, hrest⟩ | ⟨tail, htext, htail⟩
    · -- the character is behind the first item
      obtain ⟨found, before, after, head, tail, rfl, rfl, htext⟩ := ih hrest
      refine ⟨found, item :: before, after, head, tail, rfl, ?_, htext⟩
      rw [textOf_cons, List.append_assoc]
    · cases tail with
      | nil =>
        have hbehind : textOf items = [] ++ c :: post := htail.symm
        obtain ⟨found, before, after, head, tail, rfl, hpre, htext'⟩ := ih hbehind
        refine ⟨found, item :: before, after, head, tail, rfl, ?_, htext'⟩
        rw [textOf_cons, List.append_assoc, ← hpre, htext, List.append_nil, List.append_nil]
      | cons d tail =>
        obtain ⟨rfl, -⟩ := List.cons.inj htail
        exact ⟨item, [], items, pre, tail, rfl, rfl, htext⟩

namespace Scanner

variable {source : String} {file : Option String} {policy : Policy}

/-- An item that is an underscore at fault is a token that reports one. -/
theorem lexeme_eq_underscore_iff {item : Item} (h : item ∈ (start source file policy).items) :
    item.lexeme = Lexeme.underscore ↔ ∃ t, item = .token t ∧ t.ReportsUnderscore := by
  constructor
  · intro hlexeme
    cases item with
    | trivia => cases hlexeme
    | token t =>
      refine ⟨t, rfl, Token.reportsUnderscore_iff.mpr ?_⟩
      exact Shape.token.inj (congrArg Lexeme.shape hlexeme)
  · rintro ⟨t, rfl, ht⟩
    obtain ⟨after, hfront⟩ := exists_front_of_mem_items h
    rw [Item.lexeme, Token.reportsUnderscore_iff.mp ht] at hfront ⊢
    rw [hfront.text_eq_singleton]
    rfl

theorem underscore_mem_lexemes_iff (file : Option String) :
    Lexeme.underscore ∈ Lexeme.lexemes policy source.toList ↔
      ∃ t ∈ tokenize source file policy, t.ReportsUnderscore := by
  have hlexemes : Lexeme.lexemes policy source.toList =
      (start source file policy).items.map Item.lexeme :=
    (map_lexeme_items (start source file policy)).symm
  rw [hlexemes, List.mem_map]
  constructor
  · rintro ⟨item, hitem, hlexeme⟩
    obtain ⟨t, rfl, ht⟩ := (lexeme_eq_underscore_iff hitem).mp hlexeme
    exact ⟨t, mem_tokenize.mpr hitem, ht⟩
  · rintro ⟨t, hmem, ht⟩
    have hitem := mem_tokenize.mp hmem
    exact ⟨_, hitem, (lexeme_eq_underscore_iff hitem).mpr ⟨t, rfl, ht⟩⟩

theorem items_eq_iff_lexemes_eq {q : Policy} :
    (start source file q).items = (start source file policy).items ↔
      Lexeme.lexemes q source.toList = Lexeme.lexemes policy source.toList := by
  constructor
  · intro heq
    have hmap := congrArg (List.map Item.lexeme) heq
    rwa [map_lexeme_items, map_lexeme_items] at hmap
  · intro heq
    rw [items_start, items_start, heq]

/-- **Underscores as letters change nothing but what was at fault.**  A source has the same items
whether or not underscores are letters, exactly if no token of the strict scan reports one.  And
that scan reports every underscore of the source, at its own place and by a token of its own, unless
it is in a comment or in a token that a double quote starts. -/
theorem underscores_extend (source : String) (file : Option String) (policy : Policy)
    (hstrict : policy.allowUnderscores = false) :
    ((start source file policy.withUnderscores).items = (start source file policy).items ↔
      ∀ t ∈ tokenize source file policy, ¬t.ReportsUnderscore) ∧
    ∀ pre post, source.toList = pre ++ '_' :: post →
      ∃ item, Item.HoldsAt (start source file policy).items pre '_' item ∧
        (item.IsFreeText ∨
          ∃ t, item = .token t ∧ t.ReportsUnderscore ∧ t.lexeme = "_" ∧
            t.span.start.offset = utf8Length pre) := by
  constructor
  · rw [items_eq_iff_lexemes_eq, Lexeme.lexemes_withUnderscores_iff hstrict,
      underscore_mem_lexemes_iff file, not_exists]
    simp only [not_and]
  · intro pre post hsource
    have htext := textOf_items (start source file policy)
    obtain ⟨item, hholds⟩ := Item.exists_holdsAt (htext.trans hsource)
    refine ⟨item, hholds, ?_⟩
    obtain ⟨before, after, head, tail, hitems, rfl, hitem⟩ := hholds
    have hmem := mem_of_items_eq hitems
    obtain ⟨_, hfront⟩ := exists_front_of_mem_items hmem
    have hunderscore : '_' ∈ item.lexeme.text := by
      rw [item.text_lexeme, hitem]
      exact List.mem_append_right _ List.mem_cons_self
    rcases hfront.underscore_cases hstrict hunderscore with hcomment | ⟨hkind, hquote⟩ | hlexeme
    · cases item with
      | token => cases hcomment
      | trivia => exact .inl (Shape.trivia.inj hcomment)
    · cases item with
      | token => exact .inl hquote
      | trivia => cases hkind.choose_spec
    · obtain ⟨t, rfl, ht⟩ := (lexeme_eq_underscore_iff hmem).mp hlexeme
      have hlist : t.lexeme.toList = ['_'] := congrArg Lexeme.text hlexeme
      refine .inr ⟨t, rfl, ht, String.toList_inj.mp hlist, ?_⟩
      -- the token starts at the underscore
      rw [show (Item.token t).text = t.lexeme from rfl, hlist] at hitem
      obtain rfl : head = [] := by
        cases head with
        | nil => rfl
        | cons => simp at hitem
      rw [(pulls_of_items_eq hitems).token_of_start.1, List.append_nil, Item.utf8Length_textOf]

/-- Underscores in a comment and in two string literals, of which the second is open, make no
difference.  One behind a byte literal does, and is reported. -/
theorem underscores_extend_quoted :
    Policy.strict.allowUnderscores = false ∧
      (start "a //_\n\"_\" 5b \"_" none Policy.strict.withUnderscores).items =
        (start "a //_\n\"_\" 5b \"_" none .strict).items ∧
      ∃ item, Item.HoldsAt (start "5b_" none .strict).items ['5', 'b'] '_' item ∧
        (item.IsFreeText ∨
          ∃ t, item = .token t ∧ t.ReportsUnderscore ∧ t.lexeme = "_" ∧
            t.span.start.offset = utf8Length ['5', 'b']) :=
  ⟨rfl, (underscores_extend _ none .strict rfl).1.mpr (by decide +kernel),
    (underscores_extend "5b_" none .strict rfl).2 ['5', 'b'] [] rfl⟩

end Scanner

end Lexing
