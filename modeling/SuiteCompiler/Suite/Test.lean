/-
  SuiteCompiler/Suite/Test.lean
  =============================
  Tests: commands in order, no two with one id.
-/
import SuiteCompiler.Suite.Command

namespace SuiteCompiler

/-- A titled sequence of commands. -/
structure Test where
  id : String
  title : Value
  commands : List Command
  disabled : Bool
  deriving DecidableEq, Repr

namespace Test

/-- The commands that are not disabled, in order. -/
def enabledCommands (t : Test) : List Command := t.commands.filter (!·.disabled)

/-- The commands of a test, whose ids differ from each other and from those in `seen`. -/
def readCommands (groupId : Value) (testId : String) (seen : List String) :
    Fields → Except ModelFault (List Command)
  | [] => .ok []
  | (key, value) :: rest => do
    let fields ← value.record "command"
    let command ← Command.ofFields groupId (.text testId) (fields.withId key)
    if seen.contains command.id then throw (.duplicateCommand command.id testId)
    let commands ← readCommands groupId testId (command.id :: seen) rest
    return command :: commands

/-- The test of a record. -/
def ofFields (groupId : Value) (fields : Fields) : Except ModelFault Test := do
  let id := (← fields.require "id" "test").display
  let commands ← readCommands groupId id [] (← (fields.get "commands").record "test commands")
  return {
    id
    title := (fields.get "title").orElse .empty
    commands
    disabled := (fields.get "disabled").isTruthy }

/-- The test of a value. -/
def ofValue (groupId v : Value) : Except ModelFault Test := do
  ofFields groupId (← v.record "test")

/-- The tests of a group, each with the key under which the document lists it. -/
def readAll (groupId : String) : Fields → Except ModelFault (List (String × Test))
  | [] => .ok []
  | (key, value) :: rest => do
    let fields ← value.record "test"
    let test ← ofFields (.text groupId) (fields.withId key)
    let tests ← readAll groupId rest
    return (key, test) :: tests

/-- The tests that a value lists. -/
def allOfValue (groupId : String) (v : Value) : Except ModelFault (List (String × Test)) := do
  readAll groupId (← v.record "tests")

end Test

end SuiteCompiler
