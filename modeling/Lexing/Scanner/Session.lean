import Lexing.Scanner.Basic

/-!
# Working with a scanner

A session is a scanner in use, with the places that were kept for later.  A `Call` asks something of
it and a `Reply` is what comes back; the two ways of pulling, by item and by token, may be mixed
freely.
-/

namespace Lexing

/-- What can be asked of a scanner in use. -/
inductive Call where
  /-- The next token. -/
  | nextToken
  /-- The next item. -/
  | nextItem
  /-- Nothing, but the line can be seen. -/
  | look
  /-- All tokens that are left. -/
  | drain
  /-- The number of tokens that are left, without moving. -/
  | count
  /-- Keep this place for later. -/
  | save
  /-- Return to the place that was kept last. -/
  | restore
deriving DecidableEq, Repr

/-- What comes back from a call. -/
inductive Reply where
  | token (token : Option Token)
  | item (item : Option Item)
  | seen
  | tokens (tokens : List Token)
  | count (count : Nat)
  /-- The number of places that are kept; none where there was no place to return to. -/
  | kept (count : Option Nat)
deriving DecidableEq, Repr

/-- A scanner in use, and the places kept, the last one first. -/
structure Session where
  scanner : Scanner
  kept : List Scanner
deriving DecidableEq, Repr

namespace Session

/-- A scanner of which nothing was asked yet. -/
def start (scanner : Scanner) : Session := ⟨scanner, []⟩

/-- Answers one call. -/
def answer (s : Session) : Call → Reply × Session
  | .nextToken =>
    let (token, scanner) := s.scanner.nextToken
    (.token token, { s with scanner := scanner })
  | .nextItem =>
    match s.scanner.nextItem? with
    | none => (.item none, s)
    | some (item, scanner) => (.item (some item), { s with scanner := scanner })
  | .look => (.seen, s)
  | .drain =>
    let (tokens, scanner) := s.scanner.drain
    (.tokens tokens, { s with scanner := scanner })
  | .count => (.count s.scanner.drain.1.length, s)
  | .save => (.kept (some (s.kept.length + 1)), { s with kept := s.scanner :: s.kept })
  | .restore =>
    match s.kept with
    | [] => (.kept none, s)
    | scanner :: kept => (.kept (some kept.length), ⟨scanner, kept⟩)

/-- Answers calls in order.  With each reply comes the session behind it. -/
def run (s : Session) : List Call → List (Reply × Session)
  | [] => []
  | call :: calls =>
    let after := s.answer call
    after :: run after.2 calls

end Session

end Lexing
