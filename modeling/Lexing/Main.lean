import Lexing.CommandLine.Program

/-!
# The executable

Reads what a request needs from the system, and writes what comes of it.
-/

namespace Lexing.CommandLine

/-- Why the system refused to read a file.  The two errors about directories come with the system's
code, which has either sign. -/
def failureOfError : IO.Error → ReadFailure
  | .noFileOrDirectory .. => .missing
  | .inappropriateType _ code _ =>
    if code = 21 ∨ code + 21 = 0 then .isDirectory else .notDirectory
  | e => .system (toString e)

/-- The whole of a file. -/
def readFile (path : String) : IO (Except ReadFailure ByteArray) := do
  try
    return .ok (← IO.FS.readBinFile path)
  catch e =>
    return .error (failureOfError e)

/-- The whole of standard input, in pieces. -/
partial def readInput (input : IO.FS.Stream) (sofar : ByteArray) : IO ByteArray := do
  let piece ← input.read 65536
  if piece.isEmpty then return sofar else readInput input (sofar ++ piece)

/-- What has to be read for a request. -/
def readSource : Request → IO (Except ReadFailure ByteArray)
  | .scan o =>
    match o.file with
    | some path => readFile path
    | none => do return .ok (← readInput (← IO.getStdin) ByteArray.empty)
  | _ => return .ok ByteArray.empty

end Lexing.CommandLine

open Lexing.CommandLine

/-- Runs the program on the system's arguments, files and streams. -/
def main (arguments : List String) : IO UInt32 := do
  let request := Request.ofArguments arguments
  let outcome := request.outcome (← readSource request)
  let output ← IO.getStdout
  output.putStr outcome.output
  output.flush
  (← IO.getStderr).putStr outcome.diagnostics
  return outcome.status.code.toUInt32
