/-!
# Symbols

The operators and the punctuation: nineteen spellings of one or two characters.  Comparisons share
one catalog name, and so do the four operations of arithmetic.
-/

namespace Lexing

/-- A comparison. -/
inductive Relation where
  | equals | notEquals | less | lessEquals | greater | greaterEquals
deriving DecidableEq, Repr

/-- An operation of arithmetic. -/
inductive Arithmetic where
  | plus | dash | star | slash
deriving DecidableEq, Repr

/-- An operator or a punctuation mark. -/
inductive Symbol where
  | semicolon | comma
  | openParen | closeParen | openCurly | closeCurly | openBracket | closeBracket
  | assign
  | relation (relation : Relation)
  | arithmetic (operation : Arithmetic)
deriving DecidableEq, Repr

namespace Symbol

/-- Every symbol. -/
def all : List Symbol :=
  [.semicolon, .comma, .openParen, .closeParen, .openCurly, .closeCurly, .openBracket,
    .closeBracket, .assign, .relation .equals, .relation .notEquals, .relation .less,
    .relation .lessEquals, .relation .greater, .relation .greaterEquals, .arithmetic .plus,
    .arithmetic .dash, .arithmetic .star, .arithmetic .slash]

theorem mem_all (s : Symbol) : s ∈ all := by
  rcases s with _ | _ | _ | _ | _ | _ | _ | _ | _ | r | o
  case relation => cases r <;> decide
  case arithmetic => cases o <;> decide
  all_goals decide

/-- The symbol as it is written. -/
def spelling : Symbol → List Char
  | .semicolon => [';']
  | .comma => [',']
  | .openParen => ['(']
  | .closeParen => [')']
  | .openCurly => ['\x7b']
  | .closeCurly => ['\x7d']
  | .openBracket => ['[']
  | .closeBracket => [']']
  | .assign => ['=']
  | .relation .equals => ['=', '=']
  | .relation .notEquals => ['!', '=']
  | .relation .less => ['<']
  | .relation .lessEquals => ['<', '=']
  | .relation .greater => ['>']
  | .relation .greaterEquals => ['>', '=']
  | .arithmetic .plus => ['+']
  | .arithmetic .dash => ['-']
  | .arithmetic .star => ['*']
  | .arithmetic .slash => ['/']

/-- The name of the symbol in the catalog of token kinds. -/
def catalogName : Symbol → String
  | .semicolon => "SC"
  | .comma => "COMMA"
  | .openParen => "LPAREN"
  | .closeParen => "RPAREN"
  | .openCurly => "LBRACE"
  | .closeCurly => "RBRACE"
  | .openBracket => "LBRACK"
  | .closeBracket => "RBRACK"
  | .assign => "ASSIGN"
  | .relation _ => "RELOP"
  | .arithmetic _ => "BINOP"

/-- The symbol that is spelled so. -/
def ofSpelling? (cs : List Char) : Option Symbol :=
  all.find? (·.spelling = cs)

@[simp] theorem ofSpelling?_spelling (s : Symbol) : ofSpelling? s.spelling = some s := by
  rcases s with _ | _ | _ | _ | _ | _ | _ | _ | _ | r | o
  case relation => cases r <;> decide
  case arithmetic => cases o <;> decide
  all_goals decide

theorem spelling_of_ofSpelling? {cs : List Char} {s : Symbol} (h : ofSpelling? cs = some s) :
    s.spelling = cs := by
  simpa using List.find?_some h

/-- The longest symbol at the start of the text: one of two characters if there is one, else one of
a single character. -/
def next? : List Char → Option Symbol
  | [] => none
  | [c] => ofSpelling? [c]
  | c :: d :: _ => ofSpelling? [c, d] <|> ofSpelling? [c]

theorem spelling_prefix_of_next? {cs : List Char} {s : Symbol} (h : next? cs = some s) :
    s.spelling <+: cs := by
  match cs, h with
  | [c], h => simp [spelling_of_ofSpelling? h]
  | c :: d :: rest, h =>
    rw [next?] at h
    cases hp : ofSpelling? [c, d] with
    | some t =>
      obtain rfl : t = s := by simpa [hp] using h
      rw [spelling_of_ofSpelling? hp]
      exact ⟨rest, rfl⟩
    | none =>
      have h1 : ofSpelling? [c] = some s := by simpa [hp] using h
      rw [spelling_of_ofSpelling? h1]
      exact ⟨d :: rest, rfl⟩

theorem spelling_ne_nil (s : Symbol) : s.spelling ≠ [] := by
  rcases s with _ | _ | _ | _ | _ | _ | _ | _ | _ | r | o
  case relation => cases r <;> decide
  case arithmetic => cases o <;> decide
  all_goals decide

end Symbol

end Lexing
