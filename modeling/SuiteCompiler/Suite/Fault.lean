/-
  SuiteCompiler/Suite/Fault.lean
  ==============================
  What makes a document no suite, and the two checks that every record shares: an
  absent record counts as an empty one, and some fields must be there.
-/
import SuiteCompiler.Document.Key

namespace SuiteCompiler

/-- Why a document is not accepted. -/
inductive ModelFault where
  /-- A record lacks a field that it must have. -/
  | missingField (entity field : String)
  /-- A value that should be a record is of another kind. -/
  | notAnObject (entity : String) (kind : Kind)
  /-- Two commands of one test have the same id. -/
  | duplicateCommand (command test : String)
  /-- The id of a target is a list or an object, so nothing can be kept under it. -/
  | unhashableId (kind : Kind)
  deriving DecidableEq, Repr

/-- The text that reports a list or an object in the place of a key. -/
def unhashableText (kind : Kind) : String := s!"unhashable type: '{kind.name}'"

/-- The text that reports a fault. -/
def ModelFault.message : ModelFault → String
  | .missingField entity field => s!"{entity} is missing required field '{field}'"
  | .notAnObject entity kind => s!"{entity} must be an object, got {kind.name}"
  | .duplicateCommand command test => s!"Duplicate command id '{command}' in test '{test}'"
  | .unhashableId kind => unhashableText kind

/-- The fields of a record; null is a record without fields. -/
def Value.record (entity : String) : Value → Except ModelFault Fields
  | .null => .ok []
  | .object fields => .ok fields
  | v => .error (.notAnObject entity v.kind)

/-- The value of a field that must be there. -/
def Fields.require (fields : Fields) (name entity : String) : Except ModelFault Value :=
  match fields.get? name with
  | some v => .ok v
  | none => .error (.missingField entity name)

/-- The fields of a record that is listed under a key, which is its id unless it names one. -/
def Fields.withId (fields : Fields) (key : String) : Fields :=
  if fields.has "id" then fields else ("id", .text key) :: fields

end SuiteCompiler
