import Lexing.Lexeme.Recognition
import Lexing.Proofs.Literal.LineEnd

/-!
# What stands at the front, by rules

`Front policy l after` says by rules, one for each sort of lexeme, when `l` stands at the front of
the text that it begins and `after` continues.  A rule has two sides: what the text of the lexeme
is, and what may follow so that the lexeme ends there.  It does not say how the lexeme is looked
for, and no rule yields to another.

`next?_eq_some_iff` says that these rules describe recognition: a lexeme is recognised at the front
of a text exactly if it stands there.  Since something is recognised at the front of every text that
is not empty, the rules leave no text out, and no two of them apply to the same text.

All that a lexeme's recognition can depend on besides its own text is the second side of its rule;
statements about what recognition does *not* depend on are read off the rules one by one.
-/

namespace Lexing

open Text

/-! ## Symbols in their context -/

namespace Symbol

theorem length_spelling (s : Symbol) : s.spelling.length = 1 ∨ s.spelling.length = 2 := by
  have hall : ∀ s ∈ all, s.spelling.length = 1 ∨ s.spelling.length = 2 := by decide
  exact hall s s.mem_all

theorem exists_spelling_eq (s : Symbol) :
    (∃ c, s.spelling = [c]) ∨ ∃ c d, s.spelling = [c, d] := by
  rcases s.length_spelling with h | h
  · exact .inl (List.length_eq_one_iff.mp h)
  · exact .inr (List.length_eq_two.mp h)

theorem ofSpelling?_eq_none_of_length {cs : List Char} (h : 2 < cs.length) :
    ofSpelling? cs = none := by
  cases hs : ofSpelling? cs with
  | none => rfl
  | some s =>
    have hlength := s.length_spelling
    rw [spelling_of_ofSpelling? hs] at hlength
    omega

/-- Whether a character behind some text makes it a symbol, or the start of a comment. -/
def isExtendedBy (text : List Char) (d : Char) : Bool :=
  (ofSpelling? (text ++ [d])).isSome || text ++ [d] = ['/', '/']

theorem isExtendedBy_eq_false_of_length {text : List Char} (h : text.length = 2) (d : Char) :
    isExtendedBy text d = false := by
  have hlength : (text ++ [d]).length = 3 := by rw [List.length_append, h]; rfl
  rw [isExtendedBy, ofSpelling?_eq_none_of_length (by omega), Option.isSome_none, Bool.false_or,
    decide_eq_false_iff_not]
  intro hslash
  rw [hslash] at hlength
  simp at hlength

/-- A symbol is found where it is written, if the next character does not extend it. -/
theorem next?_spelling_append (s : Symbol) {after : List Char}
    (hafter : StopsAt (isExtendedBy s.spelling) after) : next? (s.spelling ++ after) = some s := by
  have hs := s.ofSpelling?_spelling
  obtain ⟨c, hc⟩ | ⟨c, d, hcd⟩ := s.exists_spelling_eq
  · rw [hc] at hs hafter ⊢
    cases after with
    | nil => exact hs
    | cons d after =>
      have hnone : ofSpelling? [c, d] = none := by
        simp only [stopsAt_cons, isExtendedBy, Bool.or_eq_false_iff] at hafter
        simpa using hafter.1
      simp [next?, hnone, hs]
  · rw [hcd] at hs ⊢
    simp [next?, hs]

/-- No symbol is found where a character is none, and none together with the next one. -/
theorem next?_eq_none {c : Char} {after : List Char} (hc : ofSpelling? [c] = none)
    (hafter : StopsAt (isExtendedBy [c]) after) : next? (c :: after) = none := by
  cases after with
  | nil => exact hc
  | cons d after =>
    have hnone : ofSpelling? [c, d] = none := by
      simp only [stopsAt_cons, isExtendedBy, Bool.or_eq_false_iff] at hafter
      simpa using hafter.1
    simp [next?, hnone, hc]

/-- A symbol that is found ends where the text does not extend it; the start of a comment has to be
excluded. -/
theorem exists_append_of_next? {cs : List Char} {s : Symbol} (h : next? cs = some s)
    (hcomment : ¬['/', '/'] <+: cs) :
    ∃ after, cs = s.spelling ++ after ∧ StopsAt (isExtendedBy s.spelling) after := by
  obtain ⟨after, rfl⟩ := spelling_prefix_of_next? h
  refine ⟨after, rfl, ?_⟩
  cases after with
  | nil => simp
  | cons d after =>
    rw [stopsAt_cons]
    obtain ⟨c, hc⟩ | ⟨c, e, hce⟩ := s.exists_spelling_eq
    · rw [hc, List.singleton_append] at h hcomment
      rw [hc, isExtendedBy, List.singleton_append, Bool.or_eq_false_iff, decide_eq_false_iff_not]
      refine ⟨?_, fun hslash => hcomment ⟨after, by rw [← hslash]; rfl⟩⟩
      -- a symbol of two characters would have been found in place of `s`
      cases htwo : ofSpelling? [c, d] with
      | none => rfl
      | some t =>
        obtain rfl : t = s := by simpa [next?, htwo] using h
        rw [spelling_of_ofSpelling? htwo] at hc
        simp at hc
    · exact isExtendedBy_eq_false_of_length (by simp [hce]) d

/-- Where no symbol is found, the first character is none, and none together with the next one. -/
theorem stopsAt_of_next?_eq_none {c : Char} {cs : List Char} (h : next? (c :: cs) = none)
    (hcomment : ¬['/', '/'] <+: c :: cs) :
    ofSpelling? [c] = none ∧ StopsAt (isExtendedBy [c]) cs := by
  cases cs with
  | nil => exact ⟨h, stopsAt_nil⟩
  | cons d cs =>
    obtain ⟨htwo, hone⟩ : ofSpelling? [c, d] = none ∧ ofSpelling? [c] = none := by
      simpa [next?] using h
    refine ⟨hone, ?_⟩
    rw [stopsAt_cons, isExtendedBy, Bool.or_eq_false_iff, decide_eq_false_iff_not]
    exact ⟨by rw [List.singleton_append, htwo]; rfl,
      fun hslash => hcomment ⟨cs, by rw [← hslash]; rfl⟩⟩

end Symbol

/-! ## Numbers in their context -/

theorem Numeral.hasByteSuffix_iff {policy : Policy} {cs : List Char} :
    hasByteSuffix policy cs = true ↔
      ∃ after, cs = 'b' :: after ∧ StopsAt policy.continuesWord after := by
  constructor
  · intro h
    obtain ⟨after, rfl⟩ := exists_of_hasByteSuffix h
    refine ⟨after, rfl, ?_⟩
    cases after with
    | nil => simp
    | cons c after => simpa [hasByteSuffix] using h
  · rintro ⟨after, rfl, hafter⟩
    cases after with
    | nil => rfl
    | cons c after => simpa [hasByteSuffix] using hafter

namespace Lexeme

/-! ## What a character can start -/

/-- The character starts no layout, no word, no number and no string literal. -/
structure IsMark (policy : Policy) (c : Char) : Prop where
  layout : isLayout c = false
  word : policy.startsWord c = false
  digit : c.isDigit = false
  quote : c ≠ '"'

theorem startsWord_eq_false {policy : Policy} {c : Char} (halpha : c.isAlpha = false)
    (hunderscore : c ≠ '_') : policy.startsWord c = false := by
  simp [Policy.startsWord, halpha, hunderscore]

theorem startsWord_eq_false_of_isLayout {policy : Policy} {c : Char} (h : isLayout c = true) :
    policy.startsWord c = false := by
  simp only [isLayout, Bool.or_eq_true, decide_eq_true_eq] at h
  rcases h with ((rfl | rfl) | rfl) | rfl
  all_goals exact startsWord_eq_false (by decide) (by decide)

theorem isDigit_eq_false_of_isLayout {c : Char} (h : isLayout c = true) : c.isDigit = false := by
  simp only [isLayout, Bool.or_eq_true, decide_eq_true_eq] at h
  rcases h with ((rfl | rfl) | rfl) | rfl <;> rfl

theorem isLayout_eq_false_of_startsWord {policy : Policy} {c : Char}
    (h : policy.startsWord c = true) : isLayout c = false := by
  by_contra hlayout
  rw [startsWord_eq_false_of_isLayout (by simpa using hlayout)] at h
  cases h

theorem isLayout_eq_false_of_isDigit {c : Char} (h : c.isDigit = true) : isLayout c = false := by
  by_contra hlayout
  rw [isDigit_eq_false_of_isLayout (by simpa using hlayout)] at h
  cases h

theorem ne_slash_of_startsWord {policy : Policy} {c : Char} (h : policy.startsWord c = true) :
    c ≠ '/' := by
  rintro rfl
  rw [startsWord_eq_false (by decide) (by decide)] at h
  cases h

theorem ne_slash_of_isDigit {c : Char} (h : c.isDigit = true) : c ≠ '/' := by
  rintro rfl
  revert h
  decide

/-- The first character of a symbol starts nothing but symbols and comments. -/
theorem isMark_of_spelling {policy : Policy} {s : Symbol} {c : Char} {cs : List Char}
    (h : s.spelling = c :: cs) : IsMark policy c := by
  have hall : ∀ s ∈ Symbol.all, (s.spelling.head?.all fun c =>
      isLayout c = false ∧ (c.isAlpha = false ∧ c ≠ '_') ∧ c.isDigit = false ∧ c ≠ '"') = true := by
    decide
  have hhead := hall s s.mem_all
  rw [h, List.head?_cons, Option.all_some, decide_eq_true_eq] at hhead
  obtain ⟨hlayout, ⟨halpha, hunderscore⟩, hdigit, hquote⟩ := hhead
  exact ⟨hlayout, startsWord_eq_false halpha hunderscore, hdigit, hquote⟩

section First

variable {policy : Policy} {c : Char} (cs : List Char)

/-! ## Which rule applies -/

theorem first_of_isLayout (h : isLayout c = true) :
    first policy c cs = ⟨.trivia .whitespace, (c :: cs).takeWhile isLayout⟩ := by
  rw [first, if_pos h]

theorem first_slash_slash :
    first policy '/' ('/' :: cs) = ⟨.trivia .comment, ('/' :: '/' :: cs).takeWhile isInLine⟩ := by
  rw [first, if_neg (by decide), if_pos ⟨rfl, rfl⟩]
  rfl

theorem first_of_startsWord (h : policy.startsWord c = true) :
    first policy c cs = word policy (c :: cs) := by
  rw [first, if_neg (by simp [isLayout_eq_false_of_startsWord h]),
    if_neg fun hc => ne_slash_of_startsWord h hc.1, if_pos h]

theorem first_of_isDigit (h : c.isDigit = true) :
    first policy c cs = Numeral.read policy (c :: cs) := by
  rw [first, if_neg (by simp [isLayout_eq_false_of_isDigit h]),
    if_neg fun hc => ne_slash_of_isDigit h hc.1,
    if_neg (by simp [Policy.startsWord_eq_false_of_isDigit h]), if_pos h]

theorem first_quote : first policy '"' cs = StringLiteral.read cs := by
  have hword : policy.startsWord '"' = false := startsWord_eq_false (by decide) (by decide)
  rw [first, if_neg (by decide), if_neg (by simp), if_neg (by simp [hword]),
    if_neg (by decide), if_pos rfl]

theorem first_of_isMark (h : IsMark policy c) (hcomment : ¬(c = '/' ∧ cs.head? = some '/')) :
    first policy c cs = symbol c cs := by
  rw [first, if_neg (by simp [h.layout]), if_neg hcomment, if_neg (by simp [h.word]),
    if_neg (by simp [h.digit]), if_neg h.quote]

end First

/-! ## The rules -/

/-- The kind of a word. -/
def wordKind (policy : Policy) (text : List Char) : Kind Fault :=
  match keyword? policy text with
  | some k => .keyword k
  | none => .identifier

theorem word_eq (policy : Policy) (cs : List Char) :
    word policy cs = ⟨.token (wordKind policy (cs.takeWhile policy.continuesWord)),
      cs.takeWhile policy.continuesWord⟩ := by
  rw [word, wordKind]
  cases keyword? policy (cs.takeWhile policy.continuesWord) <;> rfl

/-- The lexeme stands at the front of the text that it begins and `after` continues. -/
inductive Front (policy : Policy) : Lexeme → List Char → Prop
  | layout {text after : List Char} (hne : text ≠ []) (htext : ∀ c ∈ text, isLayout c = true)
      (hafter : StopsAt isLayout after) : Front policy ⟨.trivia .whitespace, text⟩ after
  | comment {body after : List Char} (hbody : ∀ c ∈ body, isInLine c = true)
      (hafter : StopsAt isInLine after) :
      Front policy ⟨.trivia .comment, '/' :: '/' :: body⟩ after
  | word {c : Char} {cs after : List Char} (hc : policy.startsWord c = true)
      (hcs : ∀ d ∈ cs, policy.continuesWord d = true)
      (hafter : StopsAt policy.continuesWord after) :
      Front policy ⟨.token (wordKind policy (c :: cs)), c :: cs⟩ after
  | number {digits after : List Char} (hne : digits ≠ [])
      (hdigits : ∀ c ∈ digits, c.isDigit = true) (hafter : StopsAt Char.isDigit after)
      (hsuffix : Numeral.hasByteSuffix policy after = false) :
      Front policy ⟨.token (Numeral.kind policy digits false), digits⟩ after
  | byteNumber {digits after : List Char} (hne : digits ≠ [])
      (hdigits : ∀ c ∈ digits, c.isDigit = true) (hafter : StopsAt policy.continuesWord after) :
      Front policy ⟨.token (Numeral.kind policy digits true), digits ++ ['b']⟩ after
  | string (es : List Element) (after : List Char) :
      Front policy ⟨.token (.string (StringLiteral.value es)), StringLiteral.text es⟩ after
  | openString {body after : List Char} (hbody : ∀ c ∈ body, isInLine c = true)
      (hopen : ∀ rest, (Element.readAll body).2 ≠ '"' :: rest)
      (hafter : StopsAt isInLine after) :
      Front policy
        ⟨.token (.error (StringLiteral.faultAt (Element.readAll body).2)), '"' :: body⟩ after
  | symbol (s : Symbol) {after : List Char}
      (hafter : StopsAt (Symbol.isExtendedBy s.spelling) after) :
      Front policy ⟨.token (.symbol s), s.spelling⟩ after
  | unknown {c : Char} {after : List Char} (hc : IsMark policy c)
      (hnone : Symbol.ofSpelling? [c] = none) (hafter : StopsAt (Symbol.isExtendedBy [c]) after) :
      Front policy ⟨.token (.error (.unknownCharacter c)), [c]⟩ after

/-! ## The rules describe recognition -/

theorem not_comment_of_stopsAt {c : Char} {after : List Char}
    (h : StopsAt (Symbol.isExtendedBy [c]) after) : ¬(c = '/' ∧ after.head? = some '/') := by
  rintro ⟨rfl, hhead⟩
  obtain ⟨after, rfl⟩ : ∃ rest, after = '/' :: rest := by
    cases after with
    | nil => simp at hhead
    | cons d after => exact ⟨after, by rw [Option.some.inj hhead]⟩
  simp [Symbol.isExtendedBy] at h

theorem not_comment_of_spelling {s : Symbol} {c : Char} {cs after : List Char}
    (h : s.spelling = c :: cs) (hafter : StopsAt (Symbol.isExtendedBy s.spelling) after) :
    ¬(c = '/' ∧ (cs ++ after).head? = some '/') := by
  cases cs with
  | nil =>
    rw [h] at hafter
    exact not_comment_of_stopsAt hafter
  | cons d cs =>
    rintro ⟨rfl, hd⟩
    obtain rfl : d = '/' := by simpa using hd
    -- two slashes start no symbol
    obtain ⟨c, hc⟩ | ⟨c, d, hcd⟩ := s.exists_spelling_eq
    · simp [hc] at h
    · obtain ⟨rfl, rfl, rfl⟩ : c = '/' ∧ d = '/' ∧ cs = [] := by simpa [hcd] using h
      have hs := s.ofSpelling?_spelling
      rw [hcd, show Symbol.ofSpelling? ['/', '/'] = none by decide] at hs
      cases hs

theorem Front.next?_eq_some {policy : Policy} {l : Lexeme} {after : List Char}
    (h : Front policy l after) : next? policy (l.text ++ after) = some l := by
  cases h with
  | @layout text _ hne htext hafter =>
    obtain ⟨c, cs, rfl⟩ := List.exists_cons_of_ne_nil hne
    rw [List.cons_append, next?, first_of_isLayout _ (htext c (by simp)), ← List.cons_append,
      takeWhile_append_of_stopsAt htext hafter]
  | @comment body _ hbody hafter =>
    have hline : ∀ c ∈ '/' :: '/' :: body, isInLine c = true := by
      simpa [isInLine] using hbody
    rw [List.cons_append, List.cons_append, next?, first_slash_slash, ← List.cons_append,
      ← List.cons_append, takeWhile_append_of_stopsAt hline hafter]
  | @word c cs _ hc hcs hafter =>
    have hword : ∀ d ∈ c :: cs, policy.continuesWord d = true := by
      simpa [Policy.continuesWord_of_startsWord hc] using hcs
    rw [List.cons_append, next?, first_of_startsWord _ hc, word_eq, ← List.cons_append,
      takeWhile_append_of_stopsAt hword hafter]
  | @number digits _ hne hdigits hafter hsuffix =>
    obtain ⟨c, cs, rfl⟩ := List.exists_cons_of_ne_nil hne
    rw [List.cons_append, next?, first_of_isDigit _ (hdigits c (by simp)), Numeral.read,
      ← List.cons_append, takeWhile_append_of_stopsAt hdigits hafter,
      dropWhile_append_of_stopsAt hdigits hafter, hsuffix]
    rfl
  | @byteNumber digits after hne hdigits hafter =>
    have hstops : StopsAt Char.isDigit ('b' :: after) := stopsAt_cons.mpr rfl
    have hsuffix : Numeral.hasByteSuffix policy ('b' :: after) = true :=
      Numeral.hasByteSuffix_iff.mpr ⟨after, rfl, hafter⟩
    obtain ⟨c, cs, rfl⟩ := List.exists_cons_of_ne_nil hne
    rw [List.append_assoc, List.singleton_append, List.cons_append, next?,
      first_of_isDigit _ (hdigits c (by simp)), Numeral.read, ← List.cons_append,
      takeWhile_append_of_stopsAt hdigits hstops, dropWhile_append_of_stopsAt hdigits hstops,
      hsuffix]
    rfl
  | string es =>
    rw [StringLiteral.text, List.cons_append, next?, first_quote, List.append_assoc,
      List.singleton_append, StringLiteral.read_of_closed]
    rfl
  | @openString body _ hbody hopen hafter =>
    rw [List.cons_append, next?, first_quote,
      StringLiteral.read_append_of_stopsAt hbody hafter, StringLiteral.read_of_not_closed hopen,
      List.takeWhile_eq_self_iff.mpr hbody]
  | @symbol s _ hafter =>
    have hnext := s.next?_spelling_append hafter
    obtain ⟨c, cs, hcs⟩ := List.exists_cons_of_ne_nil s.spelling_ne_nil
    have hcomment := not_comment_of_spelling hcs hafter
    rw [hcs, List.cons_append] at hnext ⊢
    rw [next?, first_of_isMark _ (isMark_of_spelling hcs) hcomment, Lexeme.symbol, hnext, ← hcs]
  | @unknown c _ hc hnone hafter =>
    rw [List.singleton_append, next?, first_of_isMark _ hc (not_comment_of_stopsAt hafter),
      Lexeme.symbol, Symbol.next?_eq_none hnone hafter]

theorem exists_front (policy : Policy) (c : Char) (cs : List Char) :
    ∃ l after, c :: cs = l.text ++ after ∧ Front policy l after := by
  by_cases hlayout : isLayout c = true
  · obtain ⟨text, after, rfl, htext, hafter⟩ := exists_stretch isLayout cs
    exact ⟨_, after, rfl, .layout (List.cons_ne_nil c text) (by simpa [hlayout] using htext) hafter⟩
  by_cases hcomment : c = '/' ∧ cs.head? = some '/'
  · obtain ⟨rfl, hhead⟩ := hcomment
    obtain ⟨body, after, hcs, hbody, hafter⟩ := exists_stretch isInLine cs.tail
    have hslash : cs = '/' :: (body ++ after) := by rw [← hcs, List.cons_head?_tail hhead]
    exact ⟨_, after, by rw [hslash]; rfl, .comment hbody hafter⟩
  by_cases hword : policy.startsWord c = true
  · obtain ⟨text, after, rfl, htext, hafter⟩ := exists_stretch policy.continuesWord cs
    exact ⟨_, after, rfl, .word hword htext hafter⟩
  by_cases hdigit : c.isDigit = true
  · obtain ⟨text, after, rfl, htext, hafter⟩ := exists_stretch Char.isDigit cs
    have hdigits : ∀ d ∈ c :: text, d.isDigit = true := by simpa [hdigit] using htext
    by_cases hsuffix : Numeral.hasByteSuffix policy after = true
    · obtain ⟨rest, rfl, hrest⟩ := Numeral.hasByteSuffix_iff.mp hsuffix
      exact ⟨_, rest, by simp, .byteNumber (List.cons_ne_nil c text) hdigits hrest⟩
    · exact ⟨_, after, rfl,
        .number (List.cons_ne_nil c text) hdigits hafter (by simpa using hsuffix)⟩
  by_cases hquote : c = '"'
  · subst hquote
    by_cases hclosed : ∃ rest, (Element.readAll cs).2 = '"' :: rest
    · obtain ⟨rest, hrest⟩ := hclosed
      have hsplit := Element.flatMap_text_readAll cs
      rw [hrest] at hsplit
      refine ⟨_, rest, ?_, .string (Element.readAll cs).1 rest⟩
      simp [StringLiteral.text, hsplit]
    · obtain ⟨body, after, rfl, hbody, hafter⟩ := exists_stretch isInLine cs
      have hopen : ∀ rest, (Element.readAll body).2 ≠ '"' :: rest := by
        intro rest hrest
        refine hclosed ⟨rest ++ after, ?_⟩
        rw [Element.readAll_append_of_stopsAt hbody hafter, hrest, List.cons_append]
      exact ⟨_, after, rfl, .openString hbody hopen hafter⟩
  · have hmark : IsMark policy c :=
      ⟨by simpa using hlayout, by simpa using hword, by simpa using hdigit, hquote⟩
    have hslashes : ¬['/', '/'] <+: c :: cs := by
      rintro ⟨rest, hrest⟩
      obtain ⟨rfl, rfl⟩ := List.cons.inj hrest
      exact hcomment ⟨rfl, rfl⟩
    cases hnext : Symbol.next? (c :: cs) with
    | some s =>
      obtain ⟨after, hcs, hafter⟩ := Symbol.exists_append_of_next? hnext hslashes
      exact ⟨_, after, hcs, .symbol s hafter⟩
    | none =>
      obtain ⟨hnone, hafter⟩ := Symbol.stopsAt_of_next?_eq_none hnext hslashes
      exact ⟨_, cs, rfl, .unknown hmark hnone hafter⟩

/-- **The rules describe recognition.**  A lexeme is recognised at the front of a text that it
begins exactly if it stands there. -/
theorem next?_eq_some_iff {policy : Policy} {l : Lexeme} {after : List Char} :
    next? policy (l.text ++ after) = some l ↔ Front policy l after := by
  refine ⟨fun h => ?_, Front.next?_eq_some⟩
  obtain ⟨c, cs, hcs⟩ := List.exists_cons_of_ne_nil (text_ne_nil_of_next? h)
  obtain ⟨m, rest, hrest, hm⟩ := exists_front policy c (cs ++ after)
  -- the rules leave no text out, and what they find is recognised
  rw [hcs, List.cons_append, hrest, hm.next?_eq_some] at h
  obtain rfl := Option.some.inj h
  rw [← List.cons_append, ← hcs, List.append_cancel_left_eq] at hrest
  rwa [hrest]

theorem exists_front_of_next? {policy : Policy} {cs : List Char} {l : Lexeme}
    (h : next? policy cs = some l) : ∃ after, cs = l.text ++ after ∧ Front policy l after := by
  obtain ⟨after, rfl⟩ := text_prefix_of_next? h
  exact ⟨after, rfl, next?_eq_some_iff.mp h⟩

end Lexeme

end Lexing
