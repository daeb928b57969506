import Lexing.Literal.Numeral
import Lexing.Literal.StringLiteral

/-!
# What stands at the front of a text

`Lexeme.next?` recognises the lexeme at the front of a text, and there always is one as long as
there is text: what fits nothing else is an unknown character, which is an error but a lexeme still.
`lexemes` cuts a whole text in this way.

The first character, with the second where two slashes start a comment, tells which rule applies;
the rule then takes the longest stretch that it can.

The main statements are `text_prefix_of_next?` and `text_ne_nil_of_next?`: a lexeme is some text,
and the text at the front.  From them `flatMap_text_lexemes` has it that nothing is lost.
-/

namespace Lexing.Lexeme

/-- Whether a character only separates tokens: a space, a tab, a carriage return or a line feed. -/
def isLayout (c : Char) : Bool :=
  c = ' ' || c = '\t' || c = '\r' || c = '\n'

/-- The keyword that a word is, if it is one.  Where case is ignored, capitals count as the small
letters of ASCII that they belong to. -/
def keyword? (policy : Policy) (word : List Char) : Option Keyword :=
  Keyword.ofSpelling?
    (String.ofList (if policy.ignoreKeywordCase then word.map Char.toLower else word))

/-- The longest word at the front of a text that starts with one. -/
def word (policy : Policy) (cs : List Char) : Lexeme :=
  let text := cs.takeWhile policy.continuesWord
  match keyword? policy text with
  | some k => ⟨.token (.keyword k), text⟩
  | none => ⟨.token .identifier, text⟩

/-- The longest symbol at the front of `c :: cs`, or else `c` as an unknown character. -/
def symbol (c : Char) (cs : List Char) : Lexeme :=
  match Symbol.next? (c :: cs) with
  | some s => ⟨.token (.symbol s), s.spelling⟩
  | none => ⟨.token (.error (.unknownCharacter c)), [c]⟩

/-- The lexeme at the front of the text `c :: cs`. -/
def first (policy : Policy) (c : Char) (cs : List Char) : Lexeme :=
  if isLayout c then ⟨.trivia .whitespace, (c :: cs).takeWhile isLayout⟩
  else if c = '/' ∧ cs.head? = some '/' then ⟨.trivia .comment, (c :: cs).takeWhile (· ≠ '\n')⟩
  else if policy.startsWord c then word policy (c :: cs)
  else if c.isDigit then Numeral.read policy (c :: cs)
  else if c = '"' then StringLiteral.read cs
  else symbol c cs

/-- The lexeme at the front of the text, unless the text is empty. -/
def next? (policy : Policy) : List Char → Option Lexeme
  | [] => none
  | c :: cs => some (first policy c cs)

/-! ## A lexeme is some of the text, from the front -/

@[simp] theorem text_word (policy : Policy) (cs : List Char) :
    (word policy cs).text = cs.takeWhile policy.continuesWord := by
  simp only [word]
  split <;> rfl

theorem text_symbol_prefix (c : Char) (cs : List Char) : (symbol c cs).text <+: c :: cs := by
  unfold symbol
  split
  · next h => exact Symbol.spelling_prefix_of_next? h
  · exact ⟨cs, rfl⟩

theorem text_symbol_ne_nil (c : Char) (cs : List Char) : (symbol c cs).text ≠ [] := by
  unfold symbol
  split
  · next s _ => exact s.spelling_ne_nil
  · simp

theorem text_first_prefix (policy : Policy) (c : Char) (cs : List Char) :
    (first policy c cs).text <+: c :: cs := by
  unfold first
  split
  · exact List.takeWhile_prefix _
  split
  · exact List.takeWhile_prefix _
  split
  · rw [text_word]
    exact List.takeWhile_prefix _
  split
  · exact Numeral.text_read_prefix policy _
  split
  · next h => exact h ▸ StringLiteral.text_read_prefix cs
  · exact text_symbol_prefix c cs

theorem text_first_ne_nil (policy : Policy) (c : Char) (cs : List Char) :
    (first policy c cs).text ≠ [] := by
  unfold first
  split
  · next h => simp [h]
  split
  · next h => simp [h.1]
  split
  · next h => simp [Policy.continuesWord_of_startsWord h]
  split
  · next h => exact Numeral.text_read_ne_nil policy h
  split
  · exact StringLiteral.text_read_ne_nil cs
  · exact text_symbol_ne_nil c cs

theorem text_prefix_of_next? {policy : Policy} {cs : List Char} {l : Lexeme}
    (h : next? policy cs = some l) : l.text <+: cs := by
  cases cs with
  | nil => simp [next?] at h
  | cons c cs =>
    obtain rfl := Option.some.inj h
    exact text_first_prefix policy c cs

theorem text_ne_nil_of_next? {policy : Policy} {cs : List Char} {l : Lexeme}
    (h : next? policy cs = some l) : l.text ≠ [] := by
  cases cs with
  | nil => simp [next?] at h
  | cons c cs =>
    obtain rfl := Option.some.inj h
    exact text_first_ne_nil policy c cs

theorem next?_eq_none_iff {policy : Policy} {cs : List Char} :
    next? policy cs = none ↔ cs = [] := by
  cases cs <;> simp [next?]

theorem length_drop_lt_of_next? {policy : Policy} {cs : List Char} {l : Lexeme}
    (h : next? policy cs = some l) : (cs.drop l.text.length).length < cs.length := by
  have hp := (text_prefix_of_next? h).length_le
  have hn := List.length_pos_iff.mpr (text_ne_nil_of_next? h)
  simp only [List.length_drop]
  omega

/-! ## A whole text -/

/-- The lexemes of a text, in order. -/
def lexemes (policy : Policy) (cs : List Char) : List Lexeme :=
  go [] cs
where
  /-- Goes on behind the lexemes `done`, which are reversed. -/
  go (done : List Lexeme) (cs : List Char) : List Lexeme :=
    match _ : next? policy cs with
    | none => done.reverse
    | some l => go (l :: done) (cs.drop l.text.length)
  termination_by cs.length
  decreasing_by exact length_drop_lt_of_next? (by assumption)

theorem lexemes_go_of_some {policy : Policy} {cs : List Char} {l : Lexeme}
    (h : next? policy cs = some l) (done : List Lexeme) :
    lexemes.go policy done cs = lexemes.go policy (l :: done) (cs.drop l.text.length) := by
  rw [lexemes.go]
  split <;> simp_all

theorem lexemes_go_nil (policy : Policy) (done : List Lexeme) :
    lexemes.go policy done [] = done.reverse := by
  rw [lexemes.go]
  split <;> simp_all [next?]

/-- What was recognised before does not change what is recognised. -/
theorem lexemes_go (policy : Policy) (done : List Lexeme) (cs : List Char) :
    lexemes.go policy done cs = done.reverse ++ lexemes policy cs := by
  induction hn : cs.length using Nat.strongRecOn generalizing done cs with
  | ind n ih =>
    subst hn
    cases h : next? policy cs with
    | none =>
      obtain rfl := next?_eq_none_iff.mp h
      simp [lexemes, lexemes_go_nil]
    | some l =>
      have hlt := length_drop_lt_of_next? h
      rw [lexemes, lexemes_go_of_some h, lexemes_go_of_some h, ih _ hlt _ _ rfl,
        ih _ hlt [l] _ rfl]
      simp

@[simp] theorem lexemes_nil (policy : Policy) : lexemes policy [] = [] :=
  lexemes_go_nil policy []

theorem lexemes_of_next? {policy : Policy} {cs : List Char} {l : Lexeme}
    (h : next? policy cs = some l) :
    lexemes policy cs = l :: lexemes policy (cs.drop l.text.length) := by
  rw [lexemes, lexemes_go_of_some h, lexemes_go]
  rfl

/-- The lexemes put together are the text. -/
theorem flatMap_text_lexemes (policy : Policy) (cs : List Char) :
    (lexemes policy cs).flatMap Lexeme.text = cs := by
  induction hn : cs.length using Nat.strongRecOn generalizing cs with
  | ind n ih =>
    subst hn
    cases h : next? policy cs with
    | none => simp [next?_eq_none_iff.mp h]
    | some l =>
      obtain ⟨rest, rfl⟩ := text_prefix_of_next? h
      rw [lexemes_of_next? h, List.flatMap_cons, ih _ (length_drop_lt_of_next? h) _ rfl,
        List.drop_left]

end Lexing.Lexeme
