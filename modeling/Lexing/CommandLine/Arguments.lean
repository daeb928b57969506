import Lexing.CommandLine.Listing

/-!
# Arguments

The arguments of the command line are read from left to right.  Those that start with a hyphen are
options, the others name files, and after `--` every argument names a file; a hyphen alone names one
as well.  Options take no value and may be given once.  Those of one letter can be written together
behind one hyphen.

Reading stops at the first argument that settles what is wanted: one that asks for help or for the
version, or one that is misused.  Otherwise a file is to be scanned, or standard input if no file is
named.

This is the outermost layer of the program.  A run starts behind it, from `Options`, and nothing
that is said of runs depends on how the options came about.
-/

namespace Lexing.CommandLine

/-- An option. -/
inductive Flag where
  | verbose
  | trivia
  | allowLeadingZeros
  | ignoreKeywordCase
  | allowUnderscores
  | help
  | version
deriving DecidableEq, Repr

namespace Flag

/-- Every option. -/
def all : List Flag :=
  [.verbose, .trivia, .allowLeadingZeros, .ignoreKeywordCase, .allowUnderscores, .help, .version]

/-- The name that follows two hyphens. -/
def long : Flag → String
  | .verbose => "verbose"
  | .trivia => "trivia"
  | .allowLeadingZeros => "allow-leading-zeros"
  | .ignoreKeywordCase => "case-insensitive-keywords"
  | .allowUnderscores => "allow-underscores"
  | .help => "help"
  | .version => "version"

/-- The letter that follows one hyphen, if the option has one. -/
def short? : Flag → Option Char
  | .verbose => some 'v'
  | .help => some 'h'
  | .version => some 'V'
  | _ => none

/-- The option of that name. -/
def ofLong? (name : String) : Option Flag := all.find? (·.long = name)

/-- The option of that letter. -/
def ofShort? (letter : Char) : Option Flag := all.find? (·.short? = some letter)

end Flag

/-- What is wrong with the arguments. -/
inductive Misuse where
  | unknownOption (argument : String)
  | unexpectedValue (argument : String)
  | repeatedOption (flag : Flag)
  | secondFile (name : String)
  | emptyFile
deriving DecidableEq, Repr

/-- The misuse in words. -/
def Misuse.message : Misuse → String
  | .unknownOption argument => "unexpected argument '" ++ argument ++ "' found"
  | .unexpectedValue argument => "unexpected value in '" ++ argument ++ "'"
  | .repeatedOption flag => "the argument '--" ++ flag.long ++ "' cannot be used multiple times"
  | .secondFile name => "unexpected argument '" ++ name ++ "' found"
  | .emptyFile => "a value is required for '[FILE]' but none was supplied"

/-- What is wanted. -/
inductive Request where
  | scan (options : Options)
  | help
  | version
  | misuse (misuse : Misuse)
deriving DecidableEq, Repr

/-- The arguments read so far. -/
structure Given where
  flags : List Flag
  file : Option String
  /-- Whether all further arguments name files. -/
  onlyFiles : Bool
deriving DecidableEq, Repr

namespace Given

/-- No arguments. -/
def nothing : Given := ⟨[], none, false⟩

/-- Takes an option.  Help and version settle what is wanted. -/
def takeFlag (g : Given) : Flag → Except Request Given
  | .help => .error .help
  | .version => .error .version
  | flag =>
    if flag ∈ g.flags then .error (.misuse (.repeatedOption flag))
    else .ok { g with flags := flag :: g.flags }

/-- Takes the options whose letters stand behind one hyphen. -/
def takeLetters (g : Given) (argument : String) : List Char → Except Request Given
  | [] => .ok g
  | letter :: letters =>
    match Flag.ofShort? letter with
    | none => .error (.misuse (.unknownOption argument))
    | some flag =>
      match g.takeFlag flag with
      | .ok g => g.takeLetters argument letters
      | .error request => .error request

/-- Takes an option by the name that stands behind two hyphens. -/
def takeLong (g : Given) (argument : String) (name : List Char) : Except Request Given :=
  match Flag.ofLong? (String.ofList (name.takeWhile (· ≠ '='))) with
  | none => .error (.misuse (.unknownOption argument))
  | some flag =>
    if '=' ∈ name then .error (.misuse (.unexpectedValue argument)) else g.takeFlag flag

/-- Takes the name of the file. -/
def takeFile (g : Given) (name : String) : Except Request Given :=
  if g.file.isSome then .error (.misuse (.secondFile name))
  else if name.isEmpty then .error (.misuse .emptyFile)
  else .ok { g with file := some name }

/-- Takes an argument, or finds that it settles what is wanted. -/
def take (g : Given) (argument : String) : Except Request Given :=
  if g.onlyFiles then g.takeFile argument
  else
    match argument.toList with
    | ['-', '-'] => .ok { g with onlyFiles := true }
    | '-' :: '-' :: name => g.takeLong argument name
    | '-' :: letter :: letters => g.takeLetters argument (letter :: letters)
    | _ => g.takeFile argument

/-- How the source is to be scanned, when all arguments have been taken. -/
def options (g : Given) : Options where
  file := g.file
  verbose := .verbose ∈ g.flags
  trivia := .trivia ∈ g.flags
  allowLeadingZeros := .allowLeadingZeros ∈ g.flags
  ignoreKeywordCase := .ignoreKeywordCase ∈ g.flags
  allowUnderscores := .allowUnderscores ∈ g.flags

end Given

/-- What the arguments ask for. -/
def Request.ofArguments (arguments : List String) : Request :=
  match arguments.foldlM Given.take Given.nothing with
  | .ok g => .scan g.options
  | .error request => request

example : Request.ofArguments ["--trivia", "main.c", "--allow-underscores"] =
    .scan { file := some "main.c", trivia := true, allowUnderscores := true } := by
  decide +kernel

end Lexing.CommandLine
