import Lexing.Proofs.Lexeme.LongestMatch
import Lexing.Proofs.Lexeme.Neighbour
import Lexing.Proofs.Scan.Placement
import Lexing.Proofs.Scan.Tiling
import Mathlib.Data.List.Forall2

/-!
# Keywords in other letters

Where the case of keywords is ignored, the letters of a keyword can be exchanged for capitals and
back.  That the word stays this keyword is what ignoring case means (`Front.keyword_iff`).  It is
left to see that nothing around it notices: other letters come to stand behind the lexeme in front
of the keyword, and there is a rule that tells small letters from capitals.  It is that of byte
literals, whose suffix is a small `b`.

A keyword does not meet this rule, since it has two letters at least: a `b` that starts one is no
suffix because a word goes on behind it.  All other rules treat letters alike
(`Front.before_letter`).  So the lexemes of a source stay where they are (`IsDivision.respelled`),
and as a letter has one byte in either case, so do the items (`Scanner.keyword_case_invisible`).
-/

namespace Lexing

open Text

/-! ## The case of letters -/

/-- Letters are those of ASCII. -/
theorem isAlpha_iff {c : Char} :
    c.isAlpha = true ↔ (65 ≤ c.toNat ∧ c.toNat ≤ 90) ∨ (97 ≤ c.toNat ∧ c.toNat ≤ 122) := by
  have hcapital : c.isUpper = true ↔ 65 ≤ c.toNat ∧ c.toNat ≤ 90 := decide_eq_true_iff
  have hsmall : c.isLower = true ↔ 97 ≤ c.toNat ∧ c.toNat ≤ 122 :=
    Bool.and_eq_true_iff.trans (and_congr decide_eq_true_iff decide_eq_true_iff)
  rw [← hcapital, ← hsmall]
  exact Bool.or_eq_true_iff

/-- A character is its own small letter unless it is a letter, and then the small one is a letter.
-/
theorem toLower_eq_or_isAlpha (c : Char) :
    c.toLower = c ∨ c.isAlpha = true ∧ c.toLower.isAlpha = true := by
  by_cases hc : c.val ≥ 'A'.val ∧ c.val ≤ 'Z'.val
  · have hcapital : 65 ≤ c.toNat ∧ c.toNat ≤ 90 := hc
    have hval : c.toLower.val = c.val + 32 := congrArg Char.val (dif_pos hc)
    have hsmall : c.toLower.toNat = c.toNat + 32 := by
      have hadd : c.toLower.toNat = (c.toNat + 32) % 2 ^ 32 := congrArg UInt32.toNat hval
      omega
    rw [isAlpha_iff, isAlpha_iff, hsmall]
    omega
  · exact .inl (dif_neg hc)

theorem ne_lineFeed_of_isAlpha {c : Char} (hc : c.isAlpha = true) : c ≠ '\n' := by
  rintro rfl
  cases hc

theorem utf8Size_of_isAlpha {c : Char} (hc : c.isAlpha = true) : c.utf8Size = 1 := by
  rw [isAlpha_iff] at hc
  have hascii : c.toNat ≤ 127 := by omega
  exact Char.utf8Size_eq_one_iff.mpr hascii

theorem utf8Size_toLower (c : Char) : c.toLower.utf8Size = c.utf8Size := by
  rcases toLower_eq_or_isAlpha c with hsame | ⟨hc, hlower⟩
  · rw [hsame]
  · rw [utf8Size_of_isAlpha hc, utf8Size_of_isAlpha hlower]

theorem toLower_eq_lineFeed_iff {c : Char} : c.toLower = '\n' ↔ c = '\n' := by
  rcases toLower_eq_or_isAlpha c with hsame | ⟨hc, hlower⟩
  · rw [hsame]
  · exact iff_of_false (ne_lineFeed_of_isAlpha hlower) (ne_lineFeed_of_isAlpha hc)

theorem utf8Length_map_toLower (cs : List Char) :
    utf8Length (cs.map Char.toLower) = utf8Length cs := by
  induction cs with
  | nil => rfl
  | cons c cs ih => rw [List.map_cons, utf8Length_cons, utf8Length_cons, utf8Size_toLower, ih]

theorem count_map_toLower (cs : List Char) :
    (cs.map Char.toLower).count '\n' = cs.count '\n' := by
  induction cs with
  | nil => rfl
  | cons c cs ih =>
    rw [List.map_cons, List.count_cons, List.count_cons, ih]
    simp only [beq_iff_eq, toLower_eq_lineFeed_iff]

/-- The two texts are the same up to the case of letters. -/
def SameLetters (cs cs' : List Char) : Prop :=
  cs.map Char.toLower = cs'.map Char.toLower

instance (cs cs' : List Char) : Decidable (SameLetters cs cs') :=
  inferInstanceAs (Decidable (cs.map Char.toLower = cs'.map Char.toLower))

theorem Keyword.one_lt_length_spelling (k : Keyword) : 1 < k.spelling.toList.length := by
  cases k <;> decide

theorem Keyword.isAlpha_of_mem_spelling (k : Keyword) :
    ∀ c ∈ k.spelling.toList, c.isAlpha = true := by
  rw [← List.all_eq_true]
  cases k <;> decide

section Letter

variable (policy : Policy) {c : Char} (hc : c.isAlpha = true)

include hc

theorem Policy.startsWord_of_isAlpha : policy.startsWord c = true := by
  rw [Policy.startsWord, hc, Bool.true_or]

theorem Policy.continuesWord_of_isAlpha : policy.continuesWord c = true :=
  Policy.continuesWord_of_startsWord (policy.startsWord_of_isAlpha hc)

theorem isDigit_eq_false_of_isAlpha : c.isDigit = false := by
  by_contra hdigit
  have hword := Policy.strict.startsWord_eq_false_of_isDigit (by simpa using hdigit)
  rw [Policy.strict.startsWord_of_isAlpha hc] at hword
  cases hword

theorem isInLine_of_isAlpha : isInLine c = true :=
  decide_eq_true (ne_lineFeed_of_isAlpha hc)

theorem Symbol.isExtendedBy_of_isAlpha (text : List Char) : isExtendedBy text c = false :=
  isExtendedBy_eq_false (by decide) hc text

end Letter

namespace Lexeme

variable {policy : Policy} {k : Keyword} {l : Lexeme} {text after : List Char}

/-! ## Where a keyword stands -/

theorem length_compared (policy : Policy) (text : List Char) :
    (compared policy text).length = text.length := by
  rw [compared]
  split
  · exact List.length_map _
  · rfl

theorem isAlpha_of_compared (h : ∀ c ∈ compared policy text, c.isAlpha = true) :
    ∀ c ∈ text, c.isAlpha = true := by
  intro c hc
  rw [compared] at h
  split at h
  · have hlower := h _ (List.mem_map_of_mem hc)
    rcases toLower_eq_or_isAlpha c with hsame | ⟨halpha, -⟩
    · rwa [hsame] at hlower
    · exact halpha
  · exact h c hc

theorem letters_of_compared (h : k.spelling.toList = compared policy text) :
    ∃ c d cs, text = c :: d :: cs ∧ c.isAlpha = true ∧ ∀ e ∈ d :: cs, e.isAlpha = true := by
  have hlength := k.one_lt_length_spelling
  have hletters := k.isAlpha_of_mem_spelling
  rw [h] at hlength hletters
  rw [length_compared] at hlength
  obtain ⟨c, tail, rfl⟩ := List.exists_cons_of_length_pos (Nat.zero_lt_of_lt hlength)
  obtain ⟨d, cs, rfl⟩ := List.exists_cons_of_length_pos (Nat.lt_of_succ_lt_succ hlength)
  exact ⟨c, d, cs, rfl, List.forall_mem_cons.mp (isAlpha_of_compared hletters)⟩

/-- A keyword stands where a word is compared as the keyword is spelled, and where no word goes
on. -/
theorem Front.keyword_iff :
    Front policy ⟨.token (.keyword k), text⟩ after ↔
      k.spelling.toList = compared policy text ∧ StopsAt policy.continuesWord after := by
  constructor
  · intro h
    generalize hl : (⟨.token (.keyword k), text⟩ : Lexeme) = l at h
    cases h with
    | word _ _ hafter =>
      simp only [mk.injEq, Shape.token.injEq, wordKind] at hl
      obtain ⟨hkind, rfl⟩ := hl
      refine ⟨?_, hafter⟩
      split at hkind
      · next hk => rw [← keyword?_eq_some_iff, hk, Kind.keyword.inj hkind]
      · cases hkind
    | @number digits =>
      have hnumber := describes_number policy digits
      rw [← hl] at hnumber
      cases hnumber
    | @byteNumber digits =>
      have hnumber := describes_byteNumber policy digits
      rw [← hl] at hnumber
      cases hnumber
    | _ => cases hl
  · rintro ⟨hk, hafter⟩
    obtain ⟨c, d, cs, rfl, hc, hcs⟩ := letters_of_compared hk
    have hword : wordKind policy (c :: d :: cs) = .keyword k := by
      rw [wordKind, keyword?_eq_some_iff.mpr hk]
    rw [← hword]
    exact .word (policy.startsWord_of_isAlpha hc)
      (fun e he => policy.continuesWord_of_isAlpha (hcs e he)) hafter

/-- What stands before a letter stands before every other one, if a word goes on behind that. -/
theorem Front.before_letter {c c' d : Char} {rest : List Char} (h : Front policy l (c :: after))
    (hc : c.isAlpha = true) (hc' : c'.isAlpha = true) (hd : d.isAlpha = true) :
    Front policy l (c' :: d :: rest) := by
  have hword : policy.continuesWord c = true := policy.continuesWord_of_isAlpha hc
  have hline : isInLine c = true := isInLine_of_isAlpha hc
  cases h with
  | layout hne htext =>
    exact .layout hne htext
      (stopsAt_cons.mpr (isLayout_eq_false_of_startsWord (policy.startsWord_of_isAlpha hc')))
  | number hne hdigits =>
    refine .number hne hdigits (stopsAt_cons.mpr (isDigit_eq_false_of_isAlpha hc')) ?_
    -- a word that goes on takes the suffix away
    by_contra hsuffix
    obtain ⟨tail, htail, hstops⟩ := Numeral.hasByteSuffix_iff.mp (by simpa using hsuffix)
    obtain ⟨-, rfl⟩ := List.cons.inj htail
    rw [stopsAt_cons, policy.continuesWord_of_isAlpha hd] at hstops
    cases hstops
  | string es => exact .string es _
  | symbol s => exact .symbol s (stopsAt_cons.mpr (Symbol.isExtendedBy_of_isAlpha hc' _))
  | unknown hmark hnone =>
    exact .unknown hmark hnone (stopsAt_cons.mpr (Symbol.isExtendedBy_of_isAlpha hc' _))
  -- a letter does not end the others
  | comment _ hafter => rw [stopsAt_cons, hline] at hafter; cases hafter
  | openString _ _ hafter => rw [stopsAt_cons, hline] at hafter; cases hafter
  | word _ _ hafter => rw [stopsAt_cons, hword] at hafter; cases hafter
  | byteNumber _ _ hafter => rw [stopsAt_cons, hword] at hafter; cases hafter

/-! ## Lexemes in other letters -/

/-- The lexeme with another text. -/
def withText (l : Lexeme) (text : List Char) : Lexeme :=
  { l with text := text }

/-- The text is that of the lexeme; where the lexeme is a keyword, up to the case of letters. -/
inductive Respelled : Lexeme → List Char → Prop
  | same (l : Lexeme) : Respelled l l.text
  | keyword {k : Keyword} {text text' : List Char} (h : SameLetters text text') :
      Respelled ⟨.token (.keyword k), text⟩ text'

theorem Respelled.sameLetters {text : List Char} (h : Respelled l text) :
    SameLetters l.text text := by
  cases h with
  | same => rfl
  | keyword h => exact h

theorem textOf_withText {ls : List Lexeme} {texts : List (List Char)}
    (h : List.Forall₂ Respelled ls texts) :
    textOf (List.zipWith withText ls texts) = texts.flatten := by
  induction h with
  | nil => rfl
  | cons _ _ ih => rw [List.zipWith_cons_cons, textOf_cons, ih, List.flatten_cons]; rfl

section IgnoreCase

variable (hcase : policy.ignoreKeywordCase = true)

include hcase

theorem compared_eq_of_sameLetters {text' : List Char} (h : SameLetters text text') :
    compared policy text = compared policy text' := by
  rw [compared, compared, if_pos hcase, if_pos hcase, h]

theorem Front.respelled {text : List Char} (h : Front policy l after) (htext : Respelled l text) :
    Front policy (l.withText text) after := by
  cases htext with
  | same => exact h
  | keyword hletters =>
    obtain ⟨hk, hafter⟩ := Front.keyword_iff.mp h
    rw [compared_eq_of_sameLetters hcase hletters] at hk
    exact Front.keyword_iff.mpr ⟨hk, hafter⟩

/-- A lexeme stands where it stood when those behind it are respelled. -/
theorem Front.before_respelled {ls : List Lexeme} {texts : List (List Char)}
    (h : Front policy l (textOf ls)) (hls : IsDivision policy ls)
    (htexts : List.Forall₂ Respelled ls texts) : Front policy l texts.flatten := by
  cases htexts with
  | nil => exact h
  | cons hm =>
    cases hls with
    | cons hfront =>
      cases hm with
      | same m => exact Precedes.front ⟨_, h, hfront⟩ _
      | keyword hletters =>
        obtain ⟨hk, -⟩ := Front.keyword_iff.mp hfront
        obtain ⟨c, d, cs, rfl, hc, -⟩ := letters_of_compared hk
        rw [compared_eq_of_sameLetters hcase hletters] at hk
        obtain ⟨c', d', cs', rfl, hc', hcs'⟩ := letters_of_compared hk
        exact h.before_letter hc hc' (hcs' d' List.mem_cons_self)

/-- The lexemes of a text divide the text that they make up when they are respelled. -/
theorem IsDivision.respelled {ls : List Lexeme} {texts : List (List Char)}
    (h : IsDivision policy ls) (htexts : List.Forall₂ Respelled ls texts) :
    IsDivision policy (List.zipWith withText ls texts) := by
  induction htexts with
  | nil => exact .nil
  | cons hl htail ih =>
    cases h with
    | cons hfront hdivision =>
      refine .cons ?_ (ih hdivision)
      rw [textOf_withText htail]
      exact (hfront.before_respelled hcase hdivision htail).respelled hcase hl

end IgnoreCase

end Lexeme

/-! ## Items in other letters -/

namespace Item

/-- The item with another text. -/
def withText (item : Item) (text : String) : Item :=
  match item with
  | .token t => .token { t with lexeme := text }
  | .trivia t => .trivia { t with text := text }

/-- The text is that of the item; where the item is a keyword token, up to the case of letters. -/
inductive Respelled : Item → String → Prop
  | same (item : Item) : Respelled item item.text
  | keyword {t : Token} {k : Keyword} {text : String} (hk : t.kind = .keyword k)
      (htext : SameLetters t.lexeme.toList text.toList) : Respelled (.token t) text

theorem Respelled.lexeme {item : Item} {text : String} (h : Respelled item text) :
    item.lexeme.Respelled text.toList := by
  cases h with
  | same =>
    rw [← text_lexeme]
    exact .same _
  | keyword hk htext =>
    rw [Item.lexeme, hk]
    exact .keyword htext

end Item

namespace Lexeme

/-- In its place a lexeme with another text, of as many bytes, is the item with that text. -/
theorem place_withText {l : Lexeme} {text : List Char}
    (hlength : utf8Length text = utf8Length l.text) (file : String) (line : UInt32) (offset : ℕ) :
    (l.withText text).place file line offset =
      (l.place file line offset).withText (String.ofList text) := by
  obtain ⟨shape, _⟩ := l
  cases shape with
  | trivia => rfl
  | token => rw [place, place, withText]; simp only [hlength]; rfl

/-- Respelled lexemes make the same items, with their texts respelled. -/
theorem placeAll_withText {ls : List Lexeme} {texts : List String}
    (h : List.Forall₂ Respelled ls (texts.map String.toList)) (file : String) (line : UInt32)
    (offset : ℕ) :
    placeAll file line offset (List.zipWith withText ls (texts.map String.toList)) =
      List.zipWith Item.withText (placeAll file line offset ls) texts := by
  rw [List.forall₂_map_right_iff] at h
  induction h generalizing line offset with
  | nil => rfl
  | @cons l text ls texts hl _ ih =>
    have hletters := hl.sameLetters
    have hlength : utf8Length text.toList = utf8Length l.text := by
      rw [← utf8Length_map_toLower, ← hletters, utf8Length_map_toLower]
    have hcount : text.toList.count '\n' = l.text.count '\n' := by
      rw [← count_map_toLower, ← hletters, count_map_toLower]
    rw [List.map_cons, List.zipWith_cons_cons, placeAll_cons, placeAll_cons,
      List.zipWith_cons_cons, place_withText hlength, String.ofList_toList]
    simp only [withText, hlength, hcount] at ih ⊢
    rw [ih]

end Lexeme

namespace Scanner

/-- **The case of keywords is invisible** where it is ignored.  Take the texts of the items of a
source one by one, each as it is or, if the item is a keyword token, with any of its letters in the
other case.  Together they are a source whose items are the same but for these texts: as many, and
each of the same kind, on the same line and with the same span. -/
theorem keyword_case_invisible {source : String} {file : Option String} {policy : Policy}
    (hcase : policy.ignoreKeywordCase = true) {texts : List String}
    (htexts : List.Forall₂ Item.Respelled (start source file policy).items texts) :
    (start (String.join texts) file policy).items =
      List.zipWith Item.withText (start source file policy).items texts := by
  have hlexemes : List.Forall₂ Lexeme.Respelled (Lexeme.lexemes policy source.toList)
      (texts.map String.toList) := by
    have hitems : List.Forall₂ Lexeme.Respelled
        ((start source file policy).items.map Item.lexeme) (texts.map String.toList) := by
      rw [List.forall₂_map_left_iff, List.forall₂_map_right_iff]
      exact htexts.imp fun _ _ => Item.Respelled.lexeme
    rwa [map_lexeme_items] at hitems
  have hdivision : Lexeme.IsDivision policy
      (List.zipWith Lexeme.withText (Lexeme.lexemes policy source.toList)
        (texts.map String.toList)) :=
    (Lexeme.isDivision_lexemes source.toList).respelled hcase hlexemes
  rw [items_start, items_start, String.toList_join, List.flatMap_def,
    Lexeme.lexemes_eq_iff.mpr ⟨Lexeme.textOf_withText hlexemes, hdivision⟩,
    Lexeme.placeAll_withText hlexemes]

/-- A number and an unknown character in front of keywords, of which the first starts with the
letter of the byte suffix. -/
theorem keyword_case_invisible_byte :
    (start "5bYTE@IF" none ⟨false, true, false⟩).items =
      [.token ⟨.number 5, "5", 1, ⟨⟨0, "<input>"⟩, ⟨1, "<input>"⟩⟩⟩,
        .token ⟨.keyword .byteKw, "bYTE", 1, ⟨⟨1, "<input>"⟩, ⟨5, "<input>"⟩⟩⟩,
        .token ⟨.error ⟨.unknownCharacter '@', ⟨5, "<input>"⟩⟩, "@", 1,
          ⟨⟨5, "<input>"⟩, ⟨6, "<input>"⟩⟩⟩,
        .token ⟨.keyword .ifKw, "IF", 1, ⟨⟨6, "<input>"⟩, ⟨8, "<input>"⟩⟩⟩] := by
  have hitems : (start "5BytE@if" none ⟨false, true, false⟩).items =
      [.token ⟨.number 5, "5", 1, ⟨⟨0, "<input>"⟩, ⟨1, "<input>"⟩⟩⟩,
        .token ⟨.keyword .byteKw, "BytE", 1, ⟨⟨1, "<input>"⟩, ⟨5, "<input>"⟩⟩⟩,
        .token ⟨.error ⟨.unknownCharacter '@', ⟨5, "<input>"⟩⟩, "@", 1,
          ⟨⟨5, "<input>"⟩, ⟨6, "<input>"⟩⟩⟩,
        .token ⟨.keyword .ifKw, "if", 1, ⟨⟨6, "<input>"⟩, ⟨8, "<input>"⟩⟩⟩] := by
    decide +kernel
  have htexts : List.Forall₂ Item.Respelled (start "5BytE@if" none ⟨false, true, false⟩).items
      ["5", "bYTE", "@", "IF"] := by
    rw [hitems]
    exact .cons (.same _) (.cons (.keyword rfl (by decide +kernel)) (.cons (.same _)
      (.cons (.keyword rfl (by decide +kernel)) .nil)))
  have hrespelled := keyword_case_invisible rfl htexts
  rw [hitems] at hrespelled
  exact hrespelled

end Scanner

end Lexing
