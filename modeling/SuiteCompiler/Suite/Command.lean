/-
  SuiteCompiler/Suite/Command.lean
  ================================
  Commands: what a test does, step by step.  A command acts on the page or on an
  element by a method, or it stands for a snippet that is written out in its place.
-/
import SuiteCompiler.Suite.Fault
import SuiteCompiler.Document.Literal

namespace SuiteCompiler

/-- What a command acts on. -/
inductive TargetKind where
  | page
  | element
  deriving DecidableEq, Repr

namespace TargetKind

/-- The name of a kind. -/
def name : TargetKind → String
  | .page => "page"
  | .element => "element"

/-- The kinds, in the order in which they are listed. -/
def all : List TargetKind := [.page, .element]

/-- The kind of a name. -/
def ofName? (s : String) : Option TargetKind := all.find? (·.name = s)

end TargetKind

/-- A step of a test. -/
structure Command where
  id : String
  groupId : Value
  testId : Value
  /-- The name of a target, or `"page"`. -/
  target : Value
  method : Value
  params : Fields
  /-- What is asserted; it may name a second target. -/
  assertion : Option Fields
  /-- The variables that are set before a snippet. -/
  bindings : Option Fields
  disabled : Bool
  /-- Whether the command stands for a snippet, the one with the id `ref`. -/
  isRef : Bool
  ref : Value
  deriving DecidableEq, Repr

namespace Command

/-- A command acts on the page if its target is the text "page". -/
def kind (c : Command) : TargetKind :=
  if c.target.text? = some "page" then .page else .element

/-- The target that the assertion names, null if it names none. -/
def secondTarget (c : Command) : Value :=
  match c.assertion with
  | none => .null
  | some fields => (fields.get "target").orElse .null

/-- The fields of an object, none of any other value. -/
def objectFields? : Value → Option Fields
  | .object fields => some fields
  | _ => none

/-- The command of a record that belongs to a group and a test unless it names others. -/
def ofFields (groupId testId : Value) (fields : Fields) : Except ModelFault Command := do
  let id ← fields.require "id" "command"
  let params ← (fields.get "params").record "command params"
  return {
    id := id.display
    groupId := (fields.get "groupId").orElse groupId
    testId := (fields.get "testId").orElse testId
    target := (fields.get "target").orElse .empty
    method := (fields.get "method").orElse .empty
    params
    assertion := objectFields? (fields.get "assert")
    bindings := objectFields? (fields.get "variables")
    disabled := (fields.get "disabled").isTruthy
    isRef := (fields.get "isRef").isTruthy
    ref := fields.get "ref" }

/-- The command of a value. -/
def ofValue (groupId testId v : Value) : Except ModelFault Command := do
  ofFields groupId testId (← v.record "command")

end Command

end SuiteCompiler
