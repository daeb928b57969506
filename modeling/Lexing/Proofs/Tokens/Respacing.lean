import Lexing.Proofs.Lexeme.Neighbour
import Lexing.Proofs.Scan.Tiling
import Lexing.Proofs.Tokens.LineFeed
import Mathlib.Data.List.Chain

/-!
# Tokens and the text between them

The lexemes of a token list may be written down anew, with other layout and other comments between
them, and the tokens of the new text are the same, but for where they stand
(`tokenize_respaced`).  What may be written where is said by `IsGap`, `Fits` and `IsRespacing`.

There are two halves to the proof, and `tokensOf`, the tokens of a text without their places, is
where they meet.  A gap has no tokens, and takes none from the text behind it (`tokensOf_gap`).  And
a token that stood at the front of the old text stands at the front of the new one
(`Spaced.front`): in front of a gap because layout ends it, at the end because nothing is in the
way, and without a gap because its neighbour is the one that it had, which is what the chain of
`isChain_touching` hands down from the old text.
-/

namespace Lexing

open Text

/-- What the token is, without where it stands. -/
def Token.unplaced (t : Token) : Lexeme :=
  ⟨.token t.kind.unplaced, t.lexeme.toList⟩

/-- The two tokens have nothing between them. -/
def Token.Touches (t t' : Token) : Prop :=
  t.span.stop = t'.span.start

/-! ## Writing tokens down anew -/

/-- Text without tokens: layout, and comments with the line feeds that close them.  At the end of a
source the last comment need not be closed. -/
inductive IsGap (atEnd : Bool) : List Char → Prop
  | nil : IsGap atEnd []
  | layout {c : Char} {cs : List Char} (hc : c ∈ [' ', '\t', '\r', '\n']) (hcs : IsGap atEnd cs) :
      IsGap atEnd (c :: cs)
  | comment {body cs : List Char} (hbody : '\n' ∉ body) (hcs : IsGap atEnd cs) :
      IsGap atEnd ('/' :: '/' :: body ++ '\n' :: cs)
  | openComment {body : List Char} (hend : atEnd = true) (hbody : '\n' ∉ body) :
      IsGap atEnd ('/' :: '/' :: body)

/-- The gap may stand behind the token and before the others. -/
structure Fits (t : Token) (ts : List Token) (gap : List Char) : Prop where
  isGap : IsGap ts.isEmpty gap
  /-- Tokens that do not touch are not joined. -/
  touches_of_nil : gap = [] → ∀ next ∈ ts.head?, t.Touches next
  /-- The gap starts with layout. -/
  layout_first : ∀ c ∈ gap.head?, c ∈ [' ', '\t', '\r', '\n']
  /-- Behind a string literal at fault it starts with a line feed. -/
  lineFeed_first : ∀ fault, t.kind.unplaced = .error fault → fault.isOfString = true →
    ∀ c ∈ gap.head?, c = '\n'

/-- The text has the lexemes of the tokens one after the other, and a gap that fits behind each of
them. -/
inductive Spaced : List Token → List Char → Prop
  | nil : Spaced [] []
  | cons {t : Token} {ts : List Token} {gap text : List Char} (hgap : Fits t ts gap)
      (hts : Spaced ts text) : Spaced (t :: ts) (t.lexeme.toList ++ (gap ++ text))

/-- The text is a gap, and behind it the lexemes of the tokens with gaps that fit. -/
def IsRespacing (ts : List Token) (cs : List Char) : Prop :=
  ∃ gap text, cs = gap ++ text ∧ IsGap ts.isEmpty gap ∧ Spaced ts text

/-! ## Tokens without places -/

/-- Whether the lexeme is a token. -/
def Lexeme.isToken (l : Lexeme) : Bool :=
  match l.shape with
  | .token _ => true
  | .trivia _ => false

theorem Item.map_unplaced_token? (items : List Item) :
    (items.filterMap Item.token?).map Token.unplaced =
      (items.map Item.lexeme).filter Lexeme.isToken := by
  induction items with
  | nil => rfl
  | cons item items ih =>
    cases item with
    | token t =>
      rw [List.filterMap_cons_some (f := Item.token?) rfl, List.map_cons, ih]
      rfl
    | trivia t =>
      rw [List.filterMap_cons_none (f := Item.token?) rfl, ih]
      rfl

namespace Lexeme

variable {policy : Policy}

/-- The tokens of a text, without where they stand. -/
def tokensOf (policy : Policy) (cs : List Char) : List Lexeme :=
  (lexemes policy cs).filter isToken

theorem map_unplaced_tokensAt (file : String) (line : UInt32) (offset : ℕ) (cs : List Char) :
    (tokensAt policy file line offset cs).map Token.unplaced = tokensOf policy cs := by
  rw [tokensAt, Item.map_unplaced_token?, map_lexeme_placeAll, tokensOf]

theorem map_unplaced_tokenize (source : String) (file : Option String) (policy : Policy) :
    (tokenize source file policy).map Token.unplaced = tokensOf policy source.toList := by
  rw [tokenize_eq_tokensAt, map_unplaced_tokensAt]

theorem tokensOf_of_front {l : Lexeme} {after : List Char} (h : Front policy l after) :
    tokensOf policy (l.text ++ after) = [l].filter isToken ++ tokensOf policy after := by
  rw [tokensOf, lexemes_of_front h, ← List.singleton_append, List.filter_append, tokensOf]

/-! ## Gaps have no tokens -/

theorem tokensOf_layout {c : Char} (hc : c ∈ [' ', '\t', '\r', '\n']) (cs : List Char) :
    tokensOf policy (c :: cs) = tokensOf policy cs := by
  have hlayout : ∀ d ∈ [c], isLayout d = true := by
    intro d hd
    obtain rfl := List.mem_singleton.mp hd
    exact isLayout_iff_mem.mpr hc
  have hskip : tokensAt policy "" 1 0 ([c] ++ cs) = _ := tokensAt_layout hlayout cs
  rw [List.singleton_append] at hskip
  rw [← map_unplaced_tokensAt "" 1 0, hskip, map_unplaced_tokensAt]

theorem tokensOf_comment {body after : List Char} (hbody : '\n' ∉ body)
    (hafter : StopsAt isInLine after) :
    tokensOf policy (('/' :: '/' :: body) ++ after) = tokensOf policy after := by
  have hline : ∀ c ∈ body, isInLine c = true := by
    intro c hc
    have hne : c ≠ '\n' := fun heq => hbody (heq ▸ hc)
    simpa [isInLine] using hne
  exact tokensOf_of_front (.comment hline hafter)

theorem tokensOf_gap {atEnd : Bool} {gap rest : List Char} (hgap : IsGap atEnd gap)
    (hend : atEnd = true → rest = []) : tokensOf policy (gap ++ rest) = tokensOf policy rest := by
  induction hgap with
  | nil => rfl
  | layout hc _ ih => rw [List.cons_append, tokensOf_layout hc, ih]
  | @comment body cs hbody _ ih =>
    calc tokensOf policy (('/' :: '/' :: body ++ '\n' :: cs) ++ rest)
      _ = tokensOf policy (('/' :: '/' :: body) ++ '\n' :: (cs ++ rest)) := by
          rw [List.append_assoc]
          rfl
      _ = tokensOf policy ('\n' :: (cs ++ rest)) :=
          tokensOf_comment hbody (stopsAt_cons.mpr isInLine_lineFeed)
      _ = tokensOf policy (cs ++ rest) := tokensOf_layout (by simp) _
      _ = tokensOf policy rest := ih
  | openComment hatEnd hbody => rw [hend hatEnd, tokensOf_comment hbody stopsAt_nil]

/-! ## What the old text says of neighbours -/

variable {file : String} {line : UInt32} {offset : ℕ}

theorem eq_unplaced_of_place {l : Lexeme} {t : Token}
    (h : l.place file line offset = .token t) : l = t.unplaced := by
  rw [← lexeme_place l file line offset, h]
  rfl

theorem offset_le_of_mem_placeAll {ls : List Lexeme} {t : Token}
    (h : Item.token t ∈ placeAll file line offset ls) : offset ≤ t.span.start.offset := by
  induction ls generalizing line offset with
  | nil => simp at h
  | cons l ls ih =>
    rw [placeAll_cons, List.mem_cons] at h
    rcases h with hplace | hbehind
    · rw [(token_of_place hplace.symm).1]
    · exact le_trans (Nat.le_add_right _ _) (ih hbehind)

/-- A token that starts at the place from which lexemes are placed is the first of them. -/
theorem exists_eq_cons_of_start_eq {ls : List Lexeme} {t : Token} (hls : IsDivision policy ls)
    (ht : Item.token t ∈ placeAll file line offset ls) (hstart : t.span.start.offset = offset) :
    ∃ ls', ls = t.unplaced :: ls' := by
  cases hls with
  | nil => simp at ht
  | @cons l ls hl _ =>
    rw [placeAll_cons, List.mem_cons] at ht
    rcases ht with hplace | hbehind
    · exact ⟨ls, by rw [eq_unplaced_of_place hplace.symm]⟩
    · -- whatever stands behind the first lexeme starts behind it
      have hle := offset_le_of_mem_placeAll hbehind
      have hpos : utf8Length l.text ≠ 0 := mt utf8Length_eq_zero_iff.mp hl.text_ne_nil
      omega

/-- Tokens that touch follow one another in the text that they come from. -/
theorem isChain_touching {ls : List Lexeme} (hls : IsDivision policy ls) :
    ((placeAll file line offset ls).filterMap Item.token?).IsChain
      fun t t' => t.Touches t' → Precedes policy t.unplaced t'.unplaced := by
  induction hls generalizing line offset with
  | nil => exact .nil
  | @cons l ls hl hls ih =>
    rw [placeAll_cons]
    cases hplace : l.place file line offset with
    | trivia => exact ih
    | token t =>
      rw [List.filterMap_cons_some (f := Item.token?) rfl, List.isChain_cons]
      refine ⟨fun t' ht' htouch => ?_, ih⟩
      obtain rfl := eq_unplaced_of_place hplace
      have hstart : t'.span.start.offset = offset + utf8Length t.unplaced.text := by
        rw [← htouch, (token_of_place hplace).1, ← utf8Length_toList]
        rfl
      have hmem := Item.mem_filterMap_token?.mp (List.mem_of_mem_head? ht')
      obtain ⟨ls', rfl⟩ := exists_eq_cons_of_start_eq hls hmem hstart
      cases hls with
      | cons hnext _ => exact ⟨textOf ls', hl, hnext⟩

end Lexeme

/-! ## The tokens of the new text -/

section

variable {policy : Policy} {t : Token} {ts : List Token} {gap text : List Char}

theorem Spaced.eq_nil_of_isEmpty (h : Spaced ts text) (hts : ts.isEmpty = true) : text = [] := by
  cases h with
  | nil => rfl
  | cons => cases hts

/-- A token that stood at the front of some text stands before the gap that fits and the lexemes
behind it. -/
theorem Spaced.front (hts : Spaced ts text) (hgap : Fits t ts gap)
    (ht : ∃ after, Lexeme.Front policy t.unplaced after)
    (hnext : ∀ t' ∈ ts.head?, t.Touches t' → Lexeme.Precedes policy t.unplaced t'.unplaced) :
    Lexeme.Front policy t.unplaced (gap ++ text) := by
  obtain ⟨after, hfront⟩ := ht
  cases gap with
  | cons c gap =>
    have hlayout := Lexeme.isLayout_iff_mem.mpr (hgap.layout_first c rfl)
    refine hfront.before_layout hlayout (fun fault hkind hfault => ?_) (gap ++ text)
    exact hgap.lineFeed_first fault hkind hfault c rfl
  | nil =>
    cases hts with
    | nil => exact hfront.at_end
    | @cons t' ts gap text hgap' _ =>
      have htouch : t.Touches t' := hgap.touches_of_nil rfl t' rfl
      exact (hnext t' rfl htouch).front (gap ++ text)

/-- The tokens of a text that has the lexemes of tokens with fitting gaps are these tokens. -/
theorem Spaced.tokensOf_eq (h : Spaced ts text)
    (hts : ∀ t ∈ ts, ∃ after, Lexeme.Front policy t.unplaced after)
    (hchain : ts.IsChain fun t t' => t.Touches t' →
      Lexeme.Precedes policy t.unplaced t'.unplaced) :
    Lexeme.tokensOf policy text = ts.map Token.unplaced := by
  induction h with
  | nil => rw [Lexeme.tokensOf, Lexeme.lexemes_nil]; rfl
  | @cons t ts gap text hgap hrest ih =>
    rw [List.isChain_cons] at hchain
    have hfront := hrest.front hgap (hts t (by simp)) hchain.1
    calc Lexeme.tokensOf policy (t.unplaced.text ++ (gap ++ text))
      _ = t.unplaced :: Lexeme.tokensOf policy (gap ++ text) := Lexeme.tokensOf_of_front hfront
      _ = t.unplaced :: Lexeme.tokensOf policy text := by
          rw [Lexeme.tokensOf_gap hgap.isGap hrest.eq_nil_of_isEmpty]
      _ = t.unplaced :: ts.map Token.unplaced := by
          rw [ih (fun t' ht' => hts t' (by simp [ht'])) hchain.2]

end

/-- **Layout does not matter.**  Write the lexemes of a source's tokens down anew, with gaps between
them, in front and behind: the tokens of the new source are as many, with the same kinds and
payloads and the same lexemes, in the same order. -/
theorem tokenize_respaced {source source' : String} {file file' : Option String} {policy : Policy}
    (h : IsRespacing (tokenize source file policy) source'.toList) :
    (tokenize source' file' policy).map Token.unplaced =
      (tokenize source file policy).map Token.unplaced := by
  obtain ⟨gap, text, hsource, hgap, htext⟩ := h
  have hfronts : ∀ t ∈ tokenize source file policy,
      ∃ after, Lexeme.Front policy t.unplaced after := by
    intro t ht
    exact Scanner.exists_front_of_mem_items (mem_tokenize.mp ht)
  have hchain : (tokenize source file policy).IsChain fun t t' =>
      t.Touches t' → Lexeme.Precedes policy t.unplaced t'.unplaced := by
    rw [tokenize_eq]
    exact Lexeme.isChain_touching (Lexeme.isDivision_lexemes source.toList)
  rw [Lexeme.map_unplaced_tokenize, hsource, Lexeme.tokensOf_gap hgap htext.eq_nil_of_isEmpty]
  exact htext.tokensOf_eq hfronts hchain

/-- A number and a word that only looks like its suffix, which touch; and a string literal at fault,
which needs the line feed behind it.  The last comment is not closed. -/
theorem tokenize_respaced_byte_suffix :
    IsRespacing (tokenize "5bc \"\\x" none .strict) "//é\n5bc\t\"\\x\n//=".toList ∧
      (tokenize "//é\n5bc\t\"\\x\n//=" none .strict).map Token.unplaced =
        (tokenize "5bc \"\\x" none .strict).map Token.unplaced := by
  have htokens : tokenize "5bc \"\\x" none .strict =
      [⟨.number 5, "5", 1, .ofLength "<input>" 0 1⟩,
        ⟨.identifier, "bc", 1, .ofLength "<input>" 1 2⟩,
        ⟨.error ⟨.invalidHexEscape "\\x", ⟨4, "<input>"⟩⟩, "\"\\x", 1,
          .ofLength "<input>" 4 3⟩] := by
    decide +kernel
  have hrespacing : IsRespacing (tokenize "5bc \"\\x" none .strict)
      "//é\n5bc\t\"\\x\n//=".toList := by
    rw [htokens]
    refine ⟨'/' :: '/' :: ['é'] ++ '\n' :: [],
      "5".toList ++ ([] ++ ("bc".toList ++ (['\t'] ++ ("\"\\x".toList ++
        ('\n' :: ('/' :: '/' :: ['=']) ++ []))))), rfl, .comment (by decide) .nil, ?_⟩
    refine .cons ⟨.nil, ?touches, by simp, by simp⟩
      (.cons ⟨.layout (by simp) .nil, by simp, by simp, ?noFault⟩
      (.cons ⟨.layout (by simp) (.openComment rfl (by decide)), by simp, by simp, by simp⟩ .nil))
    case touches =>
      rintro - next ⟨⟩
      rfl
    case noFault => rintro fault ⟨⟩
  exact ⟨hrespacing, tokenize_respaced hrespacing⟩

end Lexing
