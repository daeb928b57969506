/-!
# Keywords

The reserved words.  Each is spelled in lower case, and its catalog name is the spelling in
capitals.
-/

namespace Lexing

/-- A reserved word. -/
inductive Keyword where
  | voidKw | intKw | byteKw | boolKw
  | andKw | orKw | notKw
  | trueKw | falseKw
  | returnKw | ifKw | elseKw | whileKw | breakKw | continueKw
deriving DecidableEq, Repr

namespace Keyword

/-- Every keyword. -/
def all : List Keyword :=
  [.voidKw, .intKw, .byteKw, .boolKw, .andKw, .orKw, .notKw, .trueKw, .falseKw, .returnKw, .ifKw,
    .elseKw, .whileKw, .breakKw, .continueKw]

/-- The keyword as it is written. -/
def spelling : Keyword → String
  | .voidKw => "void"
  | .intKw => "int"
  | .byteKw => "byte"
  | .boolKw => "bool"
  | .andKw => "and"
  | .orKw => "or"
  | .notKw => "not"
  | .trueKw => "true"
  | .falseKw => "false"
  | .returnKw => "return"
  | .ifKw => "if"
  | .elseKw => "else"
  | .whileKw => "while"
  | .breakKw => "break"
  | .continueKw => "continue"

/-- The name of the keyword in the catalog of token kinds. -/
def catalogName : Keyword → String
  | .voidKw => "VOID"
  | .intKw => "INT"
  | .byteKw => "BYTE"
  | .boolKw => "BOOL"
  | .andKw => "AND"
  | .orKw => "OR"
  | .notKw => "NOT"
  | .trueKw => "TRUE"
  | .falseKw => "FALSE"
  | .returnKw => "RETURN"
  | .ifKw => "IF"
  | .elseKw => "ELSE"
  | .whileKw => "WHILE"
  | .breakKw => "BREAK"
  | .continueKw => "CONTINUE"

/-- The keyword that is spelled so. -/
def ofSpelling? (s : String) : Option Keyword :=
  all.find? (·.spelling = s)

@[simp] theorem ofSpelling?_spelling (k : Keyword) : ofSpelling? k.spelling = some k := by
  cases k <;> decide

theorem spelling_of_ofSpelling? {s : String} {k : Keyword} (h : ofSpelling? s = some k) :
    k.spelling = s := by
  simpa using List.find?_some h

end Keyword

end Lexing
