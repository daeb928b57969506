import Lexing.Proofs.Lexeme.Front
import Lexing.Proofs.Literal.Grammar
import Lexing.Proofs.Scan.Pulls

/-!
# The longest match

The lexemes of the language fall into seven categories, and `Matches` lists the texts of each.  This
is a grammar and no procedure: texts of several categories, and many of one, may stand at the front
of the same text, and nothing says which of them to try first.  What a text may depend on, besides
itself, is its right context, and only byte literals do.

Recognition goes the other way.  It picks a rule by a character or two and never goes back.
`Matches.exists_front` has the reason why nothing is lost by this: whatever text matches at the
front, the rule that is picked takes at least as much, and if it takes no more, then what it finds
is what the category of the text says (`Describes`).  `Front.matches_or_unmatched` is the converse:
what is found matches, or is one of the two errors that report that nothing does.

`isLongestMatch_or_unmatched` puts the two together, and `Scanner.nextItem_longest_match` has the
same for every place that a scan reaches.
-/

namespace Lexing

open Text

/-- The fault is one of a string literal. -/
def Fault.isOfString : Fault → Bool
  | .unclosedString | .invalidEscape _ | .invalidHexEscape _ => true
  | _ => false

theorem StringLiteral.isOfString_faultAt (rest : List Char) : (faultAt rest).isOfString = true := by
  unfold faultAt
  split
  · rfl
  · split <;> rfl
  · rfl

namespace Lexeme

/-! ## The grammar -/

/-- The sorts of lexemes that the language has. -/
inductive Category where
  | layout | comment | word | number | byteNumber | string | symbol
deriving DecidableEq, Repr

/-- The text is a lexeme of the category where it is followed by the second text. -/
inductive Matches (policy : Policy) : Category → List Char → List Char → Prop
  | layout {text after : List Char} (hne : text ≠ [])
      (htext : ∀ c ∈ text, c ∈ [' ', '\t', '\r', '\n']) : Matches policy .layout text after
  | comment {body after : List Char} (hbody : '\n' ∉ body) :
      Matches policy .comment ('/' :: '/' :: body) after
  | word {c : Char} {cs after : List Char} (hc : policy.startsWord c = true)
      (hcs : ∀ d ∈ cs, policy.continuesWord d = true) : Matches policy .word (c :: cs) after
  | number {digits after : List Char} (hne : digits ≠ [])
      (hdigits : ∀ c ∈ digits, c.isDigit = true) : Matches policy .number digits after
  | byteNumber {digits after : List Char} (hne : digits ≠ [])
      (hdigits : ∀ c ∈ digits, c.isDigit = true)
      (hafter : ∀ c ∈ after.head?, policy.continuesWord c = false) :
      Matches policy .byteNumber (digits ++ ['b']) after
  | string (parts : List StringLiteral.Part) (after : List Char) :
      Matches policy .string (StringLiteral.written parts) after
  | symbol (s : Symbol) (after : List Char) : Matches policy .symbol s.spelling after

/-- The word as it is compared with the keywords. -/
def compared (policy : Policy) (word : List Char) : List Char :=
  if policy.ignoreKeywordCase then word.map Char.toLower else word

/-- The lexeme is what the category says of its text.  Numbers need not be within their limits: one
that is not is still a lexeme of its category, and an error. -/
inductive Describes (policy : Policy) : Category → Lexeme → Prop
  | layout (text : List Char) : Describes policy .layout ⟨.trivia .whitespace, text⟩
  | comment (text : List Char) : Describes policy .comment ⟨.trivia .comment, text⟩
  | keyword {k : Keyword} {text : List Char} (hk : k.spelling.toList = compared policy text) :
      Describes policy .word ⟨.token (.keyword k), text⟩
  | identifier {text : List Char}
      (hnone : ∀ k : Keyword, k.spelling.toList ≠ compared policy text) :
      Describes policy .word ⟨.token .identifier, text⟩
  | number (digits : List Char) :
      Describes policy .number ⟨.token (.number (Int32.ofNat (Numeral.value digits))), digits⟩
  | malformedNumber (digits : List Char) (issue : NumberIssue) :
      Describes policy .number
        ⟨.token (.error (.malformedNumber (String.ofList digits) issue)), digits⟩
  | byteNumber (digits : List Char) :
      Describes policy .byteNumber
        ⟨.token (.byteNumber (UInt8.ofNat (Numeral.value digits))), digits ++ ['b']⟩
  | malformedByteLiteral (text : List Char) :
      Describes policy .byteNumber
        ⟨.token (.error (.malformedByteLiteral (String.ofList text))), text⟩
  | byteNumberLeadingZero (text : List Char) :
      Describes policy .byteNumber
        ⟨.token (.error (.malformedNumber (String.ofList text) .leadingZero)), text⟩
  | string (parts : List StringLiteral.Part) :
      Describes policy .string
        ⟨.token (.string (StringLiteral.denoted parts)), StringLiteral.written parts⟩
  | symbol (s : Symbol) : Describes policy .symbol ⟨.token (.symbol s), s.spelling⟩

/-- The lexeme is the error that reports that nothing of the grammar stands at the front of a text:
one character, but for a quotation mark the rest of its line. -/
inductive Unmatched : Lexeme → List Char → Prop
  | openString {fault : Fault} {cs : List Char} (hfault : fault.isOfString = true) :
      Unmatched ⟨.token (.error fault), ('"' :: cs).takeWhile (· ≠ '\n')⟩ ('"' :: cs)
  | unknown {c : Char} {cs : List Char} (hc : c ≠ '"') :
      Unmatched ⟨.token (.error (.unknownCharacter c)), [c]⟩ (c :: cs)

/-- The lexeme is the longest text of the grammar at the front of a text, and what its category says
of it. -/
structure IsLongestMatch (policy : Policy) (l : Lexeme) (cs : List Char) : Prop where
  exists_matches : ∃ category after, cs = l.text ++ after ∧ Matches policy category l.text after
  prefix_of_matches : ∀ {category text after}, cs = text ++ after →
    Matches policy category text after → text <+: l.text
  describes_of_matches : ∀ {category after}, cs = l.text ++ after →
    Matches policy category l.text after → Describes policy category l

theorem isLayout_iff_mem {c : Char} : isLayout c = true ↔ c ∈ [' ', '\t', '\r', '\n'] := by
  simp [isLayout, or_assoc]

theorem keyword?_eq_some_iff {policy : Policy} {word : List Char} {k : Keyword} :
    keyword? policy word = some k ↔ k.spelling.toList = compared policy word := by
  rw [keyword?, compared, ← String.ofList_inj, String.ofList_toList]
  constructor
  · intro h
    exact Keyword.spelling_of_ofSpelling? h
  · intro h
    rw [← h, Keyword.ofSpelling?_spelling]

/-! ## The rules and the categories -/

theorem describes_word (policy : Policy) (text : List Char) :
    Describes policy .word ⟨.token (wordKind policy text), text⟩ := by
  rw [wordKind]
  cases hk : keyword? policy text with
  | some k => exact .keyword (keyword?_eq_some_iff.mp hk)
  | none =>
    refine .identifier fun k hspelling => ?_
    rw [keyword?_eq_some_iff.mpr hspelling] at hk
    cases hk

theorem describes_number (policy : Policy) (digits : List Char) :
    Describes policy .number ⟨.token (Numeral.kind policy digits false), digits⟩ := by
  by_cases hzero : (Numeral.hasLeadingZero digits && !policy.allowLeadingZeros) = true
  · rw [Numeral.kind, if_pos hzero]
    exact .malformedNumber digits .leadingZero
  rw [Numeral.kind, if_neg hzero, if_neg Bool.false_ne_true]
  by_cases hlimit : Numeral.value digits ≤ numberLimit
  · rw [if_pos hlimit]
    exact .number digits
  · rw [if_neg hlimit]
    exact .malformedNumber digits .outOfRange

theorem describes_byteNumber (policy : Policy) (digits : List Char) :
    Describes policy .byteNumber ⟨.token (Numeral.kind policy digits true), digits ++ ['b']⟩ := by
  by_cases hzero : (Numeral.hasLeadingZero digits && !policy.allowLeadingZeros) = true
  · rw [Numeral.kind, if_pos hzero]
    exact .byteNumberLeadingZero _
  rw [Numeral.kind, if_neg hzero, if_pos rfl]
  by_cases hlimit : Numeral.value digits ≤ byteLimit
  · rw [if_pos hlimit]
    exact .byteNumber digits
  · rw [if_neg hlimit]
    exact .malformedByteLiteral _

theorem describes_string (policy : Policy) (es : List Element) :
    Describes policy .string
      ⟨.token (.string (StringLiteral.value es)), StringLiteral.text es⟩ := by
  rw [← StringLiteral.written_map_ofElement, ← StringLiteral.denoted_map_ofElement]
  exact .string _

/-! ## What matches is recognised or surpassed -/

/-- The lexeme is in the grammar and takes at least the text; if it takes no more, then it is what
the category says. -/
structure Covers (policy : Policy) (l : Lexeme) (category : Category) (text : List Char) :
    Prop where
  length_le : text.length ≤ l.text.length
  exists_describes : ∃ category', Describes policy category' l
  describes : l.text.length = text.length → Describes policy category l

theorem Covers.of_describes {policy : Policy} {l : Lexeme} {category : Category} {text : List Char}
    (h : Describes policy category l) (hlength : text.length ≤ l.text.length) :
    Covers policy l category text :=
  ⟨hlength, ⟨category, h⟩, fun _ => h⟩

theorem Covers.of_lt {policy : Policy} {l : Lexeme} {category category' : Category}
    {text : List Char} (h : Describes policy category' l) (hlength : text.length < l.text.length) :
    Covers policy l category text :=
  ⟨hlength.le, ⟨category', h⟩, fun heq => absurd heq hlength.ne'⟩

/-- A symbol is recognised where it is written, unless the next character makes it a longer one or
the start of a comment. -/
theorem exists_front_spelling (policy : Policy) (s : Symbol) (after : List Char) :
    ∃ l rest, s.spelling ++ after = l.text ++ rest ∧ Front policy l rest ∧
      Covers policy l .symbol s.spelling := by
  by_cases hafter : StopsAt (Symbol.isExtendedBy s.spelling) after
  · exact ⟨_, after, rfl, .symbol s hafter, .of_describes (.symbol s) le_rfl⟩
  -- a character that extends the symbol stands behind a single one
  obtain ⟨d, rest, rfl⟩ : ∃ d rest, after = d :: rest := by
    refine List.exists_cons_of_ne_nil fun hnil => hafter ?_
    rw [hnil]
    exact stopsAt_nil
  have hextended : Symbol.isExtendedBy s.spelling d = true := by simpa using hafter
  obtain ⟨c, hc⟩ : ∃ c, s.spelling = [c] := by
    refine s.exists_spelling_eq.resolve_right ?_
    rintro ⟨c, e, hce⟩
    rw [Symbol.isExtendedBy_eq_false_of_length (by simp [hce])] at hextended
    cases hextended
  rw [hc] at hextended ⊢
  by_cases hslash : [c, d] = ['/', '/']
  · obtain ⟨rfl, rfl⟩ : c = '/' ∧ d = '/' := by simpa using hslash
    obtain ⟨body, rest, rfl, hbody, hrest⟩ := exists_stretch isInLine rest
    exact ⟨_, rest, rfl, .comment hbody hrest, .of_lt (.comment _) (by simp)⟩
  · obtain ⟨t, ht⟩ : ∃ t, Symbol.ofSpelling? [c, d] = some t := by
      simpa [Symbol.isExtendedBy, hslash, Option.isSome_iff_exists] using hextended
    have hspelling := Symbol.spelling_of_ofSpelling? ht
    have hrest : StopsAt (Symbol.isExtendedBy t.spelling) rest := fun e _ =>
      Symbol.isExtendedBy_eq_false_of_length (by simp [hspelling]) e
    exact ⟨_, rest, by rw [hspelling]; rfl, .symbol t hrest,
      .of_lt (.symbol t) (by simp [hspelling])⟩

/-- **What matches is recognised or surpassed.**  Whatever text matches at the front of a text, what
is recognised there takes at least as much of it. -/
theorem Matches.exists_front {policy : Policy} {category : Category} {text after : List Char}
    (h : Matches policy category text after) :
    ∃ l rest, text ++ after = l.text ++ rest ∧ Front policy l rest ∧
      Covers policy l category text := by
  cases h with
  | layout hne htext =>
    obtain ⟨more, rest, rfl, hmore, hrest⟩ := exists_stretch isLayout after
    have hlayout : ∀ c ∈ text ++ more, isLayout c = true :=
      List.forall_mem_append.mpr ⟨fun c hc => isLayout_iff_mem.mpr (htext c hc), hmore⟩
    exact ⟨_, rest, (List.append_assoc text more rest).symm, .layout (by simp [hne]) hlayout hrest,
      .of_describes (.layout _) (by simp)⟩
  | @comment body _ hbody =>
    obtain ⟨more, rest, rfl, hmore, hrest⟩ := exists_stretch isInLine after
    have hline : ∀ c ∈ body ++ more, isInLine c = true := by
      refine List.forall_mem_append.mpr ⟨fun c hc => ?_, hmore⟩
      simpa [isInLine] using ne_of_mem_of_not_mem hc hbody
    exact ⟨_, rest, by simp, .comment hline hrest, .of_describes (.comment _) (by simp)⟩
  | @word c cs _ hc hcs =>
    obtain ⟨more, rest, rfl, hmore, hrest⟩ := exists_stretch policy.continuesWord after
    exact ⟨_, rest, by simp, .word hc (List.forall_mem_append.mpr ⟨hcs, hmore⟩) hrest,
      .of_describes (describes_word policy _) (by simp)⟩
  | number hne hdigits =>
    obtain ⟨more, rest, rfl, hmore, hrest⟩ := exists_stretch Char.isDigit after
    have hall : ∀ c ∈ text ++ more, c.isDigit = true := List.forall_mem_append.mpr ⟨hdigits, hmore⟩
    by_cases hsuffix : Numeral.hasByteSuffix policy rest = true
    · obtain ⟨rest, rfl, hstops⟩ := Numeral.hasByteSuffix_iff.mp hsuffix
      exact ⟨_, rest, by simp, .byteNumber (by simp [hne]) hall hstops,
        .of_lt (describes_byteNumber policy _) (by simp)⟩
    · exact ⟨_, rest, (List.append_assoc text more rest).symm,
        .number (by simp [hne]) hall hrest (by simpa using hsuffix),
        .of_describes (describes_number policy _) (by simp)⟩
  | byteNumber hne hdigits hafter =>
    exact ⟨_, after, rfl, .byteNumber hne hdigits hafter,
      .of_describes (describes_byteNumber policy _) le_rfl⟩
  | string parts =>
    obtain ⟨es, rfl⟩ := StringLiteral.exists_map_ofElement parts
    rw [StringLiteral.written_map_ofElement]
    exact ⟨_, after, rfl, .string es after, .of_describes (describes_string policy es) le_rfl⟩
  | symbol s => exact exists_front_spelling policy s after

/-! ## What is recognised matches -/

/-- What stands at the front matches, unless it is an error that reports that nothing does. -/
theorem Front.matches_or_unmatched {policy : Policy} {l : Lexeme} {after : List Char}
    (h : Front policy l after) :
    (∃ category, Matches policy category l.text after) ∨ Unmatched l (l.text ++ after) := by
  cases h with
  | layout hne htext hafter =>
    exact .inl ⟨_, .layout hne fun c hc => isLayout_iff_mem.mp (htext c hc)⟩
  | comment hbody hafter =>
    refine .inl ⟨_, .comment fun hmem => ?_⟩
    have hline := hbody _ hmem
    cases hline
  | word hc hcs hafter => exact .inl ⟨_, .word hc hcs⟩
  | number hne hdigits hafter hsuffix => exact .inl ⟨_, .number hne hdigits⟩
  | byteNumber hne hdigits hafter => exact .inl ⟨_, .byteNumber hne hdigits hafter⟩
  | string es =>
    refine .inl ⟨.string, ?_⟩
    rw [← StringLiteral.written_map_ofElement]
    exact .string _ after
  | @openString body _ hbody hopen hafter =>
    refine .inr ?_
    have hline : ∀ c ∈ '"' :: body, isInLine c = true := by simpa [isInLine] using hbody
    have htext : ('"' :: (body ++ after)).takeWhile (· ≠ '\n') = '"' :: body :=
      takeWhile_append_of_stopsAt hline hafter
    rw [List.cons_append, ← htext]
    exact .openString (StringLiteral.isOfString_faultAt _)
  | symbol s hafter => exact .inl ⟨_, .symbol s after⟩
  | unknown hc hnone hafter => exact .inr (.unknown hc.quote)

theorem Unmatched.not_describes {policy : Policy} {category : Category} {l : Lexeme}
    {cs : List Char} (h : Unmatched l cs) : ¬Describes policy category l := by
  intro hdescribes
  cases h with
  | openString hfault => cases hdescribes <;> cases hfault
  | unknown hc => cases hdescribes

/-- What is recognised is the longest match, or nothing matches and it is the error that reports
this. -/
theorem isLongestMatch_or_unmatched {policy : Policy} {l : Lexeme} {cs : List Char}
    (h : next? policy cs = some l) :
    IsLongestMatch policy l cs ∨
      (∀ category text after, cs = text ++ after → ¬Matches policy category text after) ∧
        Unmatched l cs := by
  have hcovers : ∀ {category text after}, cs = text ++ after →
      Matches policy category text after → Covers policy l category text := by
    intro category text after hcs hmatches
    obtain ⟨m, rest, hrest, hfront, hcovers⟩ := hmatches.exists_front
    -- only one lexeme is recognised
    rw [hcs, hrest, hfront.next?_eq_some] at h
    obtain rfl := Option.some.inj h
    exact hcovers
  obtain ⟨after, hafter, hfront⟩ := exists_front_of_next? h
  obtain ⟨category, hmatches⟩ | hunmatched := hfront.matches_or_unmatched
  · refine .inl ⟨⟨category, after, hafter, hmatches⟩, ?_, ?_⟩
    · intro category' text rest hcs hmatches'
      exact List.prefix_of_prefix_length_le ⟨rest, hcs.symm⟩ ⟨after, hafter.symm⟩
        (hcovers hcs hmatches').length_le
    · intro category' rest hcs hmatches'
      exact (hcovers hcs hmatches').describes rfl
  · rw [← hafter] at hunmatched
    refine .inr ⟨fun category' text rest hcs hmatches' => ?_, hunmatched⟩
    obtain ⟨category, hdescribes⟩ := (hcovers hcs hmatches').exists_describes
    exact hunmatched.not_describes hdescribes

end Lexeme

namespace Scanner

/-- **The longest match.**  At every place that a scan reaches before the end, the next item is the
longest of all texts at the front of what is ahead that the grammar has, and is what the category of
this text says.  Where the grammar has none of them, it is an error: for a quotation mark the rest
of the line is at fault as a string literal, any other character is unknown. -/
theorem nextItem_longest_match {source : String} {file : Option String} {policy : Policy}
    {items : List Item} {s : Scanner} {rest : List Char}
    (hs : Pulls (start source file policy) items s)
    (hsource : source.toList = Item.textOf items ++ rest) (hne : rest ≠ []) :
    ∃ item next, s.nextItem? = some (item, next) ∧
      (Lexeme.IsLongestMatch policy item.lexeme rest ∨
        (∀ category text after, rest = text ++ after →
            ¬Lexeme.Matches policy category text after) ∧
          Lexeme.Unmatched item.lexeme rest) := by
  have hrest : s.cursor.rest = rest := hs.rest_of_start hsource
  have hpolicy : s.policy = policy := hs.policy_eq
  obtain ⟨item, next, hnext⟩ := exists_nextItem? (hrest ▸ hne : s.cursor.rest ≠ [])
  refine ⟨item, next, hnext, ?_⟩
  have hlexeme := lexeme_of_nextItem? hnext
  rw [hrest, hpolicy] at hlexeme
  exact Lexeme.isLongestMatch_or_unmatched hlexeme

/-- Behind a slash, `5b` is not taken where a word goes on behind the `b`. -/
theorem nextItem_longest_match_five :
    ∃ items s, Pulls (start "/5bc" none .strict) items s ∧
      "/5bc".toList = Item.textOf items ++ ['5', 'b', 'c'] ∧
      ∃ item next, s.nextItem? = some (item, next) ∧
        (Lexeme.IsLongestMatch .strict item.lexeme ['5', 'b', 'c'] ∨
          (∀ category text after, ['5', 'b', 'c'] = text ++ after →
              ¬Lexeme.Matches .strict category text after) ∧
            Lexeme.Unmatched item.lexeme ['5', 'b', 'c']) := by
  have hs : Pulls (start "/5bc" none .strict) _ _ := .cons rfl (.nil _)
  exact ⟨_, _, hs, rfl, nextItem_longest_match hs rfl (by decide)⟩

end Scanner

end Lexing
