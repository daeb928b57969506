import Lexing.CommandLine.FileTree
import Lexing.CommandLine.Listing

/-!
# A run

A run lists the tokens of a file, or of standard input.  `Options.conclude` says what comes of it
once the source has been read, and `Options.run` is the whole run where the files are known
beforehand.
-/

namespace Lexing.CommandLine

/-- The name under which standard input is shown. -/
def stdinName : String := "<stdin>"

namespace Options

/-- The name under which the source is shown. -/
def shownName (o : Options) : String :=
  match o.file with
  | some path => lastPart path
  | none => stdinName

/-- What the source is called where it cannot be read. -/
def sourceName (o : Options) : String := o.file.getD "stdin"

end Options

/-- Reads bytes as text. -/
def textOfBytes (bytes : ByteArray) : Except ReadFailure String :=
  match String.fromUTF8? bytes with
  | some text => .ok text
  | none => .error .notText

namespace Options

/-- What comes of a run, once the source was read or could not be. -/
def conclude (log : Log) (o : Options) (bytes : Except ReadFailure ByteArray) : Outcome :=
  match bytes.bind textOfBytes with
  | .ok source => Listing.ofSource log o o.shownName source
  | .error failure =>
    ⟨.unusable, "", "Error: Failed to read " ++ o.sourceName ++ ": " ++ failure.cause ++ "\n"⟩

/-- A run, given its standard input and the files that there are. -/
def run (log : Log) (o : Options) (stdin : ByteArray) (files : FileTree) : Outcome :=
  o.conclude log (o.file.elim (.ok stdin) files.read)

end Options

end Lexing.CommandLine
