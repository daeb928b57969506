import Lexing.Diagnostic
import Lexing.Event
import Lexing.Scanner.Basic

/-!
# Listings

A listing is what the program writes about a source.  Its output has a line for each token, and for
each comment if comments are wanted; the diagnostics of the errors go to a stream of their own, and
so does what is logged.  The status tells whether there was an error.

`Listing.extend` pulls item after item from a scanner and writes what is to be written of it, before
it pulls the next.  An error that cannot be drawn ends the program at that place.

How a line of the log is worded is not for the program to say: a `Log` brings its own wording, and
the level from which on it is kept.
-/

namespace Lexing.CommandLine

/-- How a source is to be scanned. -/
structure Options where
  /-- The file to scan; standard input if there is none. -/
  file : Option String := none
  /-- Whether to log what happens. -/
  verbose : Bool := false
  /-- Whether to list comments. -/
  trivia : Bool := false
  allowLeadingZeros : Bool := false
  ignoreKeywordCase : Bool := false
  allowUnderscores : Bool := false
deriving DecidableEq, Repr

/-- The policy that the options select. -/
def Options.policy (o : Options) : Policy :=
  ⟨o.allowLeadingZeros, o.ignoreKeywordCase, o.allowUnderscores⟩

/-- How a program ends. -/
inductive Status where
  /-- All was well. -/
  | clean
  /-- The source has errors. -/
  | faulty
  /-- There was nothing to work on. -/
  | unusable
  /-- The program broke off. -/
  | aborted
deriving DecidableEq, Repr

/-- The status as the system is told of it. -/
def Status.code : Status → UInt8
  | .clean => 0
  | .faulty => 1
  | .unusable => 2
  | .aborted => 101

/-- All that a run of the program leaves behind. -/
structure Outcome where
  status : Status
  output : String
  diagnostics : String
deriving DecidableEq, Repr

/-! ## The log -/

/-- What the log is told of. -/
inductive Notice where
  /-- Something happened in the scan. -/
  | event (event : Event)
  /-- The scan is done, and has found that many tokens, with that many errors among them. -/
  | done (tokens errors : Nat)
deriving DecidableEq, Repr

/-- The level at which the log is told. -/
def Notice.level : Notice → Level
  | .event e => e.level
  | .done .. => .info

/-- A log that is kept from a level on. -/
structure Log where
  level : Level
  /-- How the log puts what it is told. -/
  wording : Notice → String

/-- What is written in the log. -/
def Log.write (log : Log) (n : Notice) : String :=
  if log.level.rank ≤ n.level.rank then log.wording n else ""

theorem Notice.rank_level_lt (n : Notice) : n.level.rank < Level.warn.rank := by
  cases n with
  | event e => cases e <;> simp [level, Event.level, Level.rank]
  | done tokens errors => simp [level, Level.rank]

/-- A log of warnings stays empty: a scan makes none. -/
theorem Log.write_of_level_eq_warn {log : Log} (hlog : log.level = .warn) (n : Notice) :
    log.write n = "" := by
  rw [write, hlog, if_neg (Nat.not_le.mpr n.rank_level_lt)]

/-! ## The listing of a source -/

namespace Listing

/-- What the output says of an item. -/
def entry (comments : Bool) : Item → String
  | .token t => t.display ++ "\n"
  | .trivia ⟨.comment, text, line⟩ =>
    if comments then toString line.toNat ++ " COMMENT " ++ text ++ "\n" else ""
  | .trivia ⟨.whitespace, _, _⟩ => ""

/-- The error of an item that is an error token. -/
def error? (item : Item) : Option LexicalError := item.token?.bind Token.error?

/-- The diagnostic of an item; it is empty if the item is no error. -/
def complaint (source : String) (item : Item) : Except Undrawable String :=
  match error? item with
  | none => .ok ""
  | some e => Diagnostic.render e source

/-- What was listed so far. -/
structure SoFar where
  /-- The number of tokens. -/
  tokens : Nat
  /-- The number of error tokens. -/
  errors : Nat
  output : String
  diagnostics : String
deriving DecidableEq, Repr

/-- Nothing was listed yet. -/
def SoFar.nothing : SoFar := ⟨0, 0, "", ""⟩

/-- The outcome when there is nothing more to list. -/
def SoFar.outcome (log : Log) (so : SoFar) : Outcome where
  status := if so.errors = 0 then .clean else .faulty
  output := so.output
  diagnostics := so.diagnostics ++ log.write (.done so.tokens so.errors)

/-- Lists an item, or breaks off if its error cannot be drawn. -/
def take (log : Log) (comments : Bool) (source : String) (so : SoFar) (item : Item) :
    Except Outcome SoFar :=
  let output := so.output ++ entry comments item
  let diagnostics := so.diagnostics ++ log.write (.event (Event.ofItem item))
  match complaint source item with
  | .error _ => .error ⟨.aborted, output, diagnostics⟩
  | .ok text =>
    .ok ⟨so.tokens + item.token?.isSome.toNat, so.errors + (error? item).isSome.toNat, output,
      diagnostics ++ text⟩

/-- Pulls items from a scanner until there is none, and lists each of them. -/
def extend (log : Log) (comments : Bool) (source : String) (so : SoFar) (s : Scanner) : Outcome :=
  match _ : s.nextItem? with
  | none => so.outcome log
  | some (item, next) =>
    match take log comments source so item with
    | .error outcome => outcome
    | .ok so => extend log comments source so next
termination_by s.cursor.rest.length
decreasing_by exact Scanner.length_rest_lt_of_nextItem? (by assumption)

/-- The listing of a source that is shown under a name. -/
def ofSource (log : Log) (options : Options) (name source : String) : Outcome :=
  extend log options.trivia source .nothing (Scanner.start source (some name) options.policy)

end Listing

end Lexing.CommandLine
