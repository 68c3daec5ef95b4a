/-
  SuiteCompiler/Suite/Basic.lean
  ==============================
  Suites: groups of tests, and the targets that their commands name.
-/
import SuiteCompiler.Suite.Target
import SuiteCompiler.Suite.Test

namespace SuiteCompiler

/-- A titled collection of tests, each with its key in the document. -/
structure Group where
  id : String
  title : Value
  tests : List (String × Test)
  disabled : Bool
  deriving DecidableEq, Repr

namespace Group

/-- The tests that are not disabled, in order. -/
def enabledTests (g : Group) : List Test := (g.tests.map (·.2)).filter (!·.disabled)

/-- The group of a record. -/
def ofFields (fields : Fields) : Except ModelFault Group := do
  let id := (← fields.require "id" "group").display
  let tests ← Test.allOfValue id (fields.get "tests")
  return {
    id
    title := (fields.get "title").orElse .empty
    tests
    disabled := (fields.get "disabled").isTruthy }

/-- The group of a value. -/
def ofValue (v : Value) : Except ModelFault Group := do ofFields (← v.record "group")

/-- The groups of a suite, each with the key under which the document lists it. -/
def readAll : Fields → Except ModelFault (List (String × Group))
  | [] => .ok []
  | (key, value) :: rest => do
    let fields ← value.record "group"
    let group ← ofFields (fields.withId key)
    let groups ← readAll rest
    return (key, group) :: groups

end Group

/-- An authored test suite. -/
structure Suite where
  title : Value
  targets : Targets
  groups : List (String × Group)
  deriving DecidableEq, Repr

namespace Suite

/-- The groups that are not disabled, in order. -/
def enabledGroups (s : Suite) : List Group := (s.groups.map (·.2)).filter (!·.disabled)

/-- The suite of a document. -/
def ofValue (v : Value) : Except ModelFault Suite := do
  let fields ← v.record "suite"
  let groups ← Group.readAll (← (fields.get "groups").record "suite groups")
  let targets ← Targets.ofValue (fields.get "targets")
  return { title := (fields.get "title").orElse .empty, targets, groups }

end Suite

end SuiteCompiler
