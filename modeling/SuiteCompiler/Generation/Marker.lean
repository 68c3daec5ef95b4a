/-
  SuiteCompiler/Generation/Marker.lean
  ====================================
  Markers: comment lines that tell which command the lines after them belong to.
  A marker holds the ids of a group, a test and a command, with colons between
  them; it is read back from a line on which nothing but white space surrounds it.
-/
import SuiteCompiler.Suite.Command
import SuiteCompiler.Text.Blank

namespace SuiteCompiler

/-- The place of a command in a suite, as a marker gives it. -/
structure Marker where
  groupId : String
  testId : String
  commandId : String
  deriving DecidableEq, Repr

namespace Marker

/-- What a marker starts with. -/
def label : String := "// COMMAND_ID: "

/-- The marker line of a command. -/
def line (c : Command) : String :=
  s!"      {label}{c.groupId.display}:{c.testId.display}:{c.id}"

/-- A character that may stand in an id that a marker is read with. -/
def isIdChar (c : Char) : Bool := c ≠ ':' && !Text.isBlank c

/-- An id, a colon, and what is left. -/
def readId (cs : List Char) : Option (List Char × List Char) :=
  match cs.dropWhile isIdChar with
  | ':' :: rest => some (cs.takeWhile isIdChar, rest)
  | _ => none

/-- The marker that a line holds. -/
def parse (s : String) : Option Marker := do
  let rest ← label.toList.isPrefixOf? (s.toList.dropWhile Text.isBlank)
  let (groupId, rest) ← readId rest
  let (testId, rest) ← readId rest
  if (rest.dropWhile isIdChar).all Text.isBlank then
    some ⟨String.ofList groupId, String.ofList testId, String.ofList (rest.takeWhile isIdChar)⟩
  else none

end Marker

end SuiteCompiler
