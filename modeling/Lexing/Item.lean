import Lexing.Token

/-!
# Items

A scan cuts a source into items.  An item is a token, or a stretch of *trivia*, text without meaning
to the language: a run of layout characters, or a comment.
-/

namespace Lexing

/-- The two sorts of text without meaning. -/
inductive TriviaKind where
  | whitespace
  | comment
deriving DecidableEq, Repr

/-- The name under which trivia is reported. -/
def TriviaKind.name : TriviaKind → String
  | .whitespace => "Whitespace"
  | .comment => "Comment"

/-- A stretch of text without meaning, and the line that it starts on. -/
structure Trivia where
  kind : TriviaKind
  text : String
  line : UInt32
deriving DecidableEq, Repr

/-- A piece of a scanned source. -/
inductive Item where
  | token (token : Token)
  | trivia (trivia : Trivia)
deriving DecidableEq, Repr

namespace Item

/-- The source text of the item. -/
def text : Item → String
  | .token t => t.lexeme
  | .trivia t => t.text

/-- The line that the item starts on. -/
def line : Item → UInt32
  | .token t => t.line
  | .trivia t => t.line

/-- The name under which the item is reported: the catalog name of a token, the sort of trivia. -/
def name : Item → String
  | .token t => t.catalogName
  | .trivia t => t.kind.name

/-- The token, if the item is one. -/
def token? : Item → Option Token
  | .token t => some t
  | .trivia _ => none

end Item

end Lexing
