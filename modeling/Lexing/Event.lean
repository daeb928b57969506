import Lexing.Item

/-!
# Events

A scan can be watched.  Every item that is found makes one event, in the order of the source: a
token that is no error is *scanned*, an error is *recovered* from, and trivia is *skipped*.
-/

namespace Lexing

/-- How much something matters.  The less it does, the more detail has to be asked for before it is
told. -/
inductive Level where
  | trace
  | debug
  | info
  | warn
deriving DecidableEq, Repr

/-- The name of the level. -/
def Level.name : Level → String
  | .trace => "TRACE"
  | .debug => "DEBUG"
  | .info => "INFO"
  | .warn => "WARN"

/-- The place of the level among the levels, counted from the one that matters least. -/
def Level.rank : Level → Nat
  | .trace => 0
  | .debug => 1
  | .info => 2
  | .warn => 3

/-- Something that happens in a scan. -/
inductive Event where
  /-- A token was found; `kind` is its catalog name. -/
  | scanned (line : UInt32) (lexeme : String) (kind : String)
  /-- Text at fault was made an error token. -/
  | recovered (line : UInt32) (lexeme : String) (fault : Fault)
  /-- Text without meaning was passed over. -/
  | skipped (line : UInt32) (kind : TriviaKind)
deriving DecidableEq, Repr

namespace Event

/-- The level at which the event is told. -/
def level : Event → Level
  | .recovered .. => .debug
  | _ => .trace

/-- The event in words. -/
def message : Event → String
  | .scanned .. => "scanned token"
  | .recovered .. => "recovered from lexical error"
  | .skipped .. => "skipped trivia"

/-- The event that an item makes when it is found. -/
def ofItem : Item → Event
  | .token t =>
    match t.error? with
    | some e => .recovered t.line t.lexeme e.fault
    | none => .scanned t.line t.lexeme t.catalogName
  | .trivia t => .skipped t.line t.kind

end Event

end Lexing
