import Lexing.Cursor
import Lexing.Lexeme.Recognition

/-!
# Scanners

A scanner is a cursor in a source, with the source's name and the policy under which it is read.
Items are pulled from it one by one.  A pull gives the item and the scanner behind it; the scanner
before it remains what it was, so that any place can be kept and returned to.

`items` is everything that is ahead, and `items_eq_cons_of_nextItem?` says that pulling takes it
apart from the front.  `drain` pulls token after token until there is none, and `drain_eq` says that
these are the tokens among the items, and that the end of the source is where it stops.
-/

namespace Lexing

/-- A place in a named source that is read under a policy. -/
structure Scanner where
  cursor : Cursor
  file : String
  policy : Policy
deriving DecidableEq, Repr

namespace Scanner

/-- The name of a source that has none. -/
def unnamed : String := "<input>"

/-- The scanner before the first character of a source. -/
def start (source : String) (file : Option String) (policy : Policy) : Scanner :=
  ⟨Cursor.start source, file.getD unnamed, policy⟩

/-- The line that the scanner stands on. -/
def line (s : Scanner) : UInt32 := s.cursor.line

/-! ## Pulling -/

/-- The next item and the scanner behind it; none at the end. -/
def nextItem? (s : Scanner) : Option (Item × Scanner) :=
  (Lexeme.next? s.policy s.cursor.rest).map fun l =>
    (l.place s.file s.cursor.line s.cursor.offset,
      { s with cursor := s.cursor.advanceBy l.text.length })

theorem length_rest_lt_of_nextItem? {s next : Scanner} {item : Item}
    (h : s.nextItem? = some (item, next)) :
    next.cursor.rest.length < s.cursor.rest.length := by
  obtain ⟨l, hl, heq⟩ := Option.map_eq_some_iff.mp h
  obtain ⟨-, rfl⟩ := Prod.mk.inj heq
  rw [Cursor.rest_advanceBy]
  exact Lexeme.length_drop_lt_of_next? hl

/-- The next token, if there is one ahead, and the scanner behind it.  Trivia in front of the token
is passed over; where no token is left, all that is ahead is. -/
def nextToken (s : Scanner) : Option Token × Scanner :=
  match _ : s.nextItem? with
  | none => (none, s)
  | some (.token t, next) => (some t, next)
  | some (.trivia _, next) => nextToken next
termination_by s.cursor.rest.length
decreasing_by exact length_rest_lt_of_nextItem? (by assumption)

theorem length_rest_lt_of_nextToken {s next : Scanner} {token : Token}
    (h : s.nextToken = (some token, next)) :
    next.cursor.rest.length < s.cursor.rest.length := by
  fun_induction nextToken s with
  | case1 s hnone => cases h
  | case2 s t behind hnext =>
    cases h
    exact length_rest_lt_of_nextItem? hnext
  | case3 s trivia behind hnext ih => exact Nat.lt_trans (ih h) (length_rest_lt_of_nextItem? hnext)

/-- Pulls token after token until there is none.  Gives the tokens, and the scanner behind them. -/
def drain (s : Scanner) : List Token × Scanner :=
  go [] s
where
  /-- Goes on behind the tokens `done`, which are reversed. -/
  go (done : List Token) (s : Scanner) : List Token × Scanner :=
    match _ : s.nextToken with
    | (none, next) => (done.reverse, next)
    | (some token, next) => go (token :: done) next
  termination_by s.cursor.rest.length
  decreasing_by exact length_rest_lt_of_nextToken (by assumption)

/-! ## All that is ahead -/

/-- The items ahead, in order. -/
def items (s : Scanner) : List Item :=
  Lexeme.placeAll s.file s.cursor.line s.cursor.offset (Lexeme.lexemes s.policy s.cursor.rest)

/-- The tokens ahead, in order. -/
def tokens (s : Scanner) : List Token :=
  s.items.filterMap Item.token?

/-- The scanner at the end of its source. -/
def atEnd (s : Scanner) : Scanner :=
  { s with cursor := s.cursor.advanceBy s.cursor.rest.length }

section Ahead

variable {s next : Scanner} {item : Item} {token : Token}

theorem nextItem?_eq_none_iff : s.nextItem? = none ↔ s.cursor.rest = [] := by
  rw [nextItem?, Option.map_eq_none_iff, Lexeme.next?_eq_none_iff]

theorem items_of_nextItem?_eq_none (h : s.nextItem? = none) : s.items = [] := by
  rw [items, nextItem?_eq_none_iff.mp h, Lexeme.lexemes_nil, Lexeme.placeAll_nil]

theorem atEnd_of_nextItem?_eq_none (h : s.nextItem? = none) : s.atEnd = s := by
  rw [atEnd, nextItem?_eq_none_iff.mp h]
  rfl

/-- An item that is pulled is the first of those ahead, and the others are ahead of the scanner
behind it. -/
theorem items_eq_cons_of_nextItem? (h : s.nextItem? = some (item, next)) :
    s.items = item :: next.items := by
  obtain ⟨l, hl, heq⟩ := Option.map_eq_some_iff.mp h
  obtain ⟨rfl, rfl⟩ := Prod.mk.inj heq
  obtain ⟨rest, hrest⟩ := Lexeme.text_prefix_of_next? hl
  have htake : s.cursor.rest.take l.text.length = l.text := by
    rw [← hrest, List.take_left]
  rw [items, Lexeme.lexemes_of_next? hl, Lexeme.placeAll_cons, items, Cursor.rest_advanceBy,
    Cursor.line_advanceBy, Cursor.offset_advanceBy, htake]

/-- A pull comes no further than to the end of the source. -/
theorem atEnd_of_nextItem? (h : s.nextItem? = some (item, next)) : next.atEnd = s.atEnd := by
  obtain ⟨l, hl, heq⟩ := Option.map_eq_some_iff.mp h
  obtain ⟨-, rfl⟩ := Prod.mk.inj heq
  have hlength := (Lexeme.text_prefix_of_next? hl).length_le
  rw [atEnd, atEnd, Cursor.rest_advanceBy, List.length_drop, ← Cursor.advanceBy_add,
    Nat.add_sub_cancel' hlength]

/-- A token that is pulled is the first of those ahead, and the others are ahead of the scanner
behind it. -/
theorem tokens_eq_cons_of_nextToken (h : s.nextToken = (some token, next)) :
    s.tokens = token :: next.tokens ∧ next.atEnd = s.atEnd := by
  fun_induction nextToken s with
  | case1 s hnone => cases h
  | case2 s t behind hnext =>
    cases h
    rw [tokens, items_eq_cons_of_nextItem? hnext]
    exact ⟨rfl, atEnd_of_nextItem? hnext⟩
  | case3 s trivia behind hnext ih =>
    rw [tokens, items_eq_cons_of_nextItem? hnext, ← atEnd_of_nextItem? hnext]
    exact ih h

/-- Where no token can be pulled there is none ahead, and everything is passed over. -/
theorem tokens_eq_nil_of_nextToken (h : s.nextToken = (none, next)) :
    s.tokens = [] ∧ next = s.atEnd := by
  fun_induction nextToken s with
  | case1 s hnone =>
    cases h
    rw [tokens, items_of_nextItem?_eq_none hnone, atEnd_of_nextItem?_eq_none hnone]
    exact ⟨rfl, rfl⟩
  | case2 s t behind hnext => cases h
  | case3 s trivia behind hnext ih =>
    rw [tokens, items_eq_cons_of_nextItem? hnext, ← atEnd_of_nextItem? hnext]
    exact ih h

theorem drain_go (done : List Token) (s : Scanner) :
    drain.go done s = (done.reverse ++ s.tokens, s.atEnd) := by
  fun_induction drain.go done s with
  | case1 done s next hnone =>
    obtain ⟨htokens, rfl⟩ := tokens_eq_nil_of_nextToken hnone
    rw [htokens, List.append_nil]
  | case2 done s token next hnext ih =>
    obtain ⟨htokens, hend⟩ := tokens_eq_cons_of_nextToken hnext
    rw [ih, htokens, hend, List.reverse_cons, List.append_assoc]
    rfl

/-- Pulling tokens until there is none gives all tokens ahead and leads to the end of the source. -/
theorem drain_eq (s : Scanner) : s.drain = (s.tokens, s.atEnd) :=
  drain_go [] s

end Ahead

end Scanner

/-- The tokens of a source, pulled one after the other. -/
def tokenize (source : String) (file : Option String) (policy : Policy) : List Token :=
  (Scanner.start source file policy).drain.1

theorem tokenize_eq (source : String) (file : Option String) (policy : Policy) :
    tokenize source file policy = (Scanner.start source file policy).tokens := by
  rw [tokenize, Scanner.drain_eq]

end Lexing
