import Lexing.Token.Kind

/-!
# Tokens

A token is a piece of source with a kind, the line that it starts on and its span.  Its lexeme is
the text as it stands in the source; its value is what the text means, and the two differ for
numbers and for string literals.
-/

namespace Lexing

/-- A token and its place. -/
structure Token where
  kind : Kind LexicalError
  /-- The source text. -/
  lexeme : String
  /-- The line that the lexeme starts on, counted from 1. -/
  line : UInt32
  span : Span
deriving DecidableEq, Repr

namespace Token

/-- The value as it is listed: a number in decimal, a string decoded, and the lexeme of everything
else. -/
def value (t : Token) : String :=
  match t.kind with
  | .number value => toString value.toInt
  | .byteNumber value => toString value.toNat
  | .string content => content
  | _ => t.lexeme

/-- The name of the token's kind in the catalog. -/
def catalogName (t : Token) : String := t.kind.unplaced.catalogName

/-- The token as it is listed: line, catalog name and value. -/
def display (t : Token) : String :=
  toString t.line.toNat ++ " " ++ t.catalogName ++ " " ++ t.value

/-- The error, if the token is one. -/
def error? (t : Token) : Option LexicalError := t.kind.error?

end Token

end Lexing
