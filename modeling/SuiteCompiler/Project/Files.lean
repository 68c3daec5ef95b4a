/-
  SuiteCompiler/Project/Files.lean
  ================================
  A collection of files by their paths.  A directory exists if a file lies below it
  or it was made.  Following a path needs every directory on the way to exist, so
  `a/../b` leads nowhere without `a`.
-/
import SuiteCompiler.Project.Path

namespace SuiteCompiler

/-- Files with their contents, and directories that were made.  Every path in here is without
double dots, except at its start. -/
structure Files where
  contents : List (Path × List UInt8) := []
  directories : List Path := []
  deriving DecidableEq, Repr

/-- Why a path leads to no file. -/
inductive PathFault where
  /-- There is no file, or no directory on the way. -/
  | notFound
  /-- The path is too long, or a name on the way is. -/
  | nameTooLong
  deriving DecidableEq, Repr

/-- Why a file is not written. -/
inductive WriteFault where
  /-- The path leads to a directory. -/
  | isADirectory
  /-- A file is in the place of the directory. -/
  | fileExists
  /-- A file is in the place of a directory on the way. -/
  | notADirectory
  /-- The path is too long, or a name on the way is. -/
  | nameTooLong
  deriving DecidableEq, Repr

namespace Files

/-- The content of the file at a path without detours. -/
def contentAt? (files : Files) (place : Path) : Option (List UInt8) := files.contents.lookup place

/-- Whether one path leads into the directory of another. -/
def isBelow (place other : Path) : Bool :=
  other.root = place.root && other.names.isPrefixOf place.names && other ≠ place

/-- Whether there is a directory at a path without detours.  The working directory and those
above it are there. -/
def isDirectory (files : Files) (place : Path) : Bool :=
  place.names.all (· = "..") || files.directories.contains place ||
    files.directories.any (isBelow · place) || files.contents.any fun (p, _) => isBelow p place

/-- The place one name further on: a double dot leads back. -/
def advance (place : Path) (name : String) : Path :=
  if name = ".." then
    if place.names.all (· = "..") then
      if place.root = "" then place.child ".." else place
    else place.parent
  else place.child name

/-- The place that names lead to, if the directories on the way are there.  A name is looked at
only once the directory before it is there. -/
def walk (files : Files) (place : Path) : List String → Except PathFault Path
  | [] => .ok place
  | name :: names =>
    if !files.isDirectory place then .error .notFound
    else if Path.isLongName name then .error .nameTooLong
    else walk files (advance place name) names

/-- The place that a path leads to.  A path that is too long, or that nothing can have, is not
followed at all. -/
def resolve (files : Files) (p : Path) : Except PathFault Path :=
  if p.names.any Path.hasNul then .error .notFound
  else if p.isLong then .error .nameTooLong else files.walk { p with names := [] } p.names

/-- The content of the file that a path leads to. -/
def read (files : Files) (p : Path) : Except PathFault (List UInt8) := do
  match files.contentAt? (← files.resolve p) with
  | some content => return content
  | none => throw .notFound

/-- Makes the directories that names lead through, and gives the last one. -/
def makeDirectories (files : Files) (place : Path) :
    List String → Except WriteFault (Files × Path)
  | [] => .ok (files, place)
  | name :: names =>
    let next := advance place name
    if Path.isLongName name then .error .nameTooLong
    else if files.isDirectory next then makeDirectories files next names
    else if (files.contentAt? next).isSome then
      .error (if names.isEmpty then .fileExists else .notADirectory)
    else makeDirectories { files with directories := next :: files.directories } next names

/-- Writes a file, after the directories on the way to it.  Gives the place where it lies. -/
def write (files : Files) (p : Path) (content : List UInt8) :
    Except WriteFault (Files × Path) := do
  if p.parent.isLong then throw .nameTooLong
  let (files, directory) ← files.makeDirectories { p with names := [] } p.names.dropLast
  match p.names.getLast? with
  | none => throw .isADirectory
  | some name =>
    let place := advance directory name
    if p.isLong || Path.isLongName name then throw .nameTooLong
    else if files.isDirectory place then throw .isADirectory
    else
      let others := files.contents.filter (·.1 ≠ place)
      return ({ files with contents := (place, content) :: others }, place)

end Files

end SuiteCompiler
