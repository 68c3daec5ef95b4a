/-
  SuiteCompiler/Suite/Snippets.lean
  =================================
  Snippets: tests that commands of a suite refer to, and the targets they use.
-/
import SuiteCompiler.Suite.Basic

namespace SuiteCompiler

/-- Tests to be written out in the place of references, each under its key in the document. -/
structure SnippetLibrary where
  targets : Targets
  tests : List (String × Test)
  deriving DecidableEq, Repr

namespace SnippetLibrary

/-- The library without snippets. -/
def empty : SnippetLibrary := ⟨[], []⟩

/-- The id of the group that holds the snippets of a library in the layout of a suite. -/
def groupId : String := "snippets"

/-- The snippet that a reference names: none if the reference is not given, is no text or names no
snippet.  A list or an object is not even looked up. -/
def getTest? (library : SnippetLibrary) : Value → Except Kind (Option Test)
  | .list _ => .error .list
  | .object _ => .error .object
  | .text ref => .ok (library.tests.lookup ref)
  | _ => .ok none

/-- The library of a document, which either has tests of its own or the layout of a suite. -/
def ofValue (v : Value) : Except ModelFault SnippetLibrary := do
  let fields ← v.record "snippets"
  let tests ←
    match fields.get? "tests" with
    | some tests => Test.allOfValue groupId tests
    | none => do
      let groups ← (fields.get "groups").record "snippet groups"
      let group ← (groups.get groupId).record "snippet group"
      Test.allOfValue groupId (group.get "tests")
  let targets ← Targets.ofValue (fields.get "targets")
  return { targets, tests }

end SnippetLibrary

end SuiteCompiler
