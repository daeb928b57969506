import Lexing.CommandLine.Arguments
import Lexing.CommandLine.Run

/-!
# The program

The program reads its arguments, and then lists the tokens of a file or of its standard input,
unless it was asked for something else.  `Request.outcome` says what comes of a request once the
source has been read, and `run` is the whole program where the files are known beforehand.
-/

namespace Lexing.CommandLine

/-- What the program says of itself when it is asked for help, line by line. -/
def helpLines : List String :=
  ["Prints the token stream of a source file, one token per line",
    "",
    "Usage: scanner [OPTIONS] [FILE]",
    "",
    "Arguments:",
    "  [FILE]  Source file to scan; reads stdin when omitted",
    "",
    "Options:",
    "  -v, --verbose                    Enable debug logging on stderr",
    "      --trivia                     Also print comments",
    "      --allow-leading-zeros        Accept numbers such as `017`",
    "      --case-insensitive-keywords  Match keywords regardless of letter case",
    "      --allow-underscores          Allow `_` in identifiers",
    "  -h, --help                       Print help",
    "  -V, --version                    Print version"]

/-- The help in one text. -/
def helpText : String := String.join (helpLines.map (· ++ "\n"))

/-- The name and the version of the program. -/
def versionText : String := "scanner 0.1.0\n"

/-- How the log puts what it is told. -/
def logLine (n : Notice) : String :=
  n.level.name ++ " " ++ text ++ "\n"
where
  text : String :=
    match n with
    | .event (.recovered line lexeme fault) =>
      (Event.recovered line lexeme fault).message ++ " line=" ++ toString line.toNat ++
        " lexeme=" ++ lexeme ++ " error=" ++ fault.message
    | .event e => e.message
    | .done tokens errors =>
      "scanned input tokens=" ++ toString tokens ++ " errors=" ++ toString errors

/-- The log that is kept: of warnings, or with more detail where it was asked for. -/
def Options.log (o : Options) : Log := ⟨if o.verbose then .debug else .warn, logLine⟩

/-- The file that has to be read for a request, if there is one. -/
def Request.file? : Request → Option String
  | .scan o => o.file
  | _ => none

/-- What comes of a request, given what was read for it. -/
def Request.outcome (bytes : Except ReadFailure ByteArray) : Request → Outcome
  | .scan o => o.conclude o.log bytes
  | .help => ⟨.clean, helpText, ""⟩
  | .version => ⟨.clean, versionText, ""⟩
  | .misuse m => ⟨.unusable, "", "error: " ++ m.message ++ "\n"⟩

/-- The program, given its arguments, its standard input and the files that there are. -/
def run (arguments : List String) (stdin : ByteArray) (files : FileTree) : Outcome :=
  let request := Request.ofArguments arguments
  request.outcome (request.file?.elim (.ok stdin) files.read)

end Lexing.CommandLine
