/-
  SuiteCompiler/Project/Path.lean
  ===============================
  Paths as lists of names.  Empty names and single dots are dropped when a path is
  read; a double dot is kept, since what it leads to depends on the files.  There are
  limits to a path that is followed, and to every name on the way.
-/
import SuiteCompiler.Text.Lines

namespace SuiteCompiler

/-- A path: what it starts from, and the names on the way. -/
structure Path where
  /-- Empty for a path from the working directory, else one slash or two. -/
  root : String
  names : List String
  deriving DecidableEq, Repr

namespace Path

/-- What a written path starts from.  Exactly two slashes are kept apart from one. -/
def rootOf : List Char → String
  | '/' :: '/' :: '/' :: _ => "/"
  | '/' :: '/' :: _ => "//"
  | '/' :: _ => "/"
  | _ => ""

/-- The path that a text denotes. -/
def ofString (s : String) : Path where
  root := rootOf s.toList
  names := (Text.split '/' s).filter fun name => name ≠ "" && name ≠ "."

/-- The text of a path; the working directory is a dot. -/
def text (p : Path) : String :=
  let text := p.root ++ "/".intercalate p.names
  if text = "" then "." else text

/-- The most bytes of a name on the way of a path. -/
def nameLimit : Nat := 255

/-- The most bytes of the text of a path. -/
def textLimit : Nat := 4095

/-- Whether nothing can have a name, since it has too many bytes. -/
def isLongName (name : String) : Bool := nameLimit < name.utf8ByteSize

/-- Whether the text of a path has too many bytes to be followed. -/
def isLong (p : Path) : Bool := textLimit < p.text.utf8ByteSize

/-- Whether a text has a NUL character in it, which nothing on the way of a path can have in its
name. -/
def hasNul (text : String) : Bool := text.toList.contains '\x00'

/-- The directory that holds what a path leads to; the start of a path holds itself. -/
def parent (p : Path) : Path := { p with names := p.names.dropLast }

/-- A path followed by one more name. -/
def child (p : Path) (name : String) : Path := { p with names := p.names ++ [name] }

end Path

end SuiteCompiler
