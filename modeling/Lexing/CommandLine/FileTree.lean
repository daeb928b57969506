/-!
# Files

A `FileTree` holds the files below the directory in which a program runs, and `FileTree.read` gives
the content of the file that a path leads to.  A path is walked from part to part: an empty part and
`.` stay, `..` goes up, and a name goes down.  Each of them needs a directory to start from, so that
a path which goes on behind a file leads nowhere, even by a slash alone.

Above the tree there are directories that hold nothing known.
-/

namespace Lexing.CommandLine

/-- Why a source could not be read. -/
inductive ReadFailure where
  | missing
  | isDirectory
  | notDirectory
  | notText
  /-- A cause that only the system can name. -/
  | system (cause : String)
deriving DecidableEq, Repr

/-- The cause of the failure in words. -/
def ReadFailure.cause : ReadFailure → String
  | .missing => "No such file or directory (os error 2)"
  | .isDirectory => "Is a directory (os error 21)"
  | .notDirectory => "Not a directory (os error 20)"
  | .notText => "stream did not contain valid UTF-8"
  | .system cause => cause

/-- The parts of a path. -/
def pathParts (path : String) : List String := path.splitOn "/"

/-- The last part of a path: the name by which a file is shown. -/
def lastPart (path : String) : String := (pathParts path).getLast?.getD path

/-- The files below a directory, each with the names that lead to it. -/
structure FileTree where
  files : List (List String × ByteArray)

namespace FileTree

/-- The tree of the files at the given relative paths. -/
def ofPaths (files : List (String × ByteArray)) : FileTree :=
  ⟨files.map fun (path, content) =>
    ((pathParts path).filter fun part => part ≠ "" ∧ part ≠ ".", content)⟩

/-- The content of the file at the end of the names, if a file is there. -/
def content? (t : FileTree) (names : List String) : Option ByteArray :=
  (t.files.find? (·.1 = names)).map (·.2)

/-- Whether the names lead to a directory. -/
def isDirectory (t : FileTree) (names : List String) : Bool :=
  names = [] || t.files.any fun (path, _) => path ≠ names && names.isPrefixOf path

/-- Where a walk has come to. -/
inductive Place where
  /-- In the tree, at the end of the names. -/
  | inside (names : List String)
  /-- In a directory that is not part of the tree. -/
  | outside
deriving DecidableEq, Repr

/-- The directory that holds a place. -/
def Place.parent : Place → Place
  | .inside [] => .outside
  | .inside names => .inside names.dropLast
  | .outside => .outside

/-- Walks one part of a path. -/
def walkPart (t : FileTree) (place : Place) (part : String) : Except ReadFailure Place :=
  match place with
  | .outside => if part = "" ∨ part = "." ∨ part = ".." then .ok .outside else .error .missing
  | .inside names =>
    if t.isDirectory names then
      if part = "" ∨ part = "." then .ok place
      else if part = ".." then .ok place.parent
      else
        let below := names ++ [part]
        if (t.content? below).isSome ∨ t.isDirectory below then .ok (.inside below)
        else .error .missing
    else .error .notDirectory

/-- The place that a path leads to. -/
def walk (t : FileTree) (path : String) : Except ReadFailure Place :=
  (pathParts path).foldlM t.walkPart (if path.startsWith "/" then .outside else .inside [])

/-- The content of the file that a path leads to. -/
def read (t : FileTree) (path : String) : Except ReadFailure ByteArray :=
  match t.walk path with
  | .error failure => .error failure
  | .ok .outside => .error .isDirectory
  | .ok (.inside names) =>
    match t.content? names with
    | some content => .ok content
    | none => .error .isDirectory

end FileTree

end Lexing.CommandLine
