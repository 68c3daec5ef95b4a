/-
  SuiteCompiler/Suite/Target.lean
  ===============================
  Targets: the names that commands use for elements of a page, each bound to a
  selector.  A document lists them either as `name: selector` or as records with a
  name, a selector and an id of their own.
-/
import SuiteCompiler.Suite.Fault

namespace SuiteCompiler

/-- A name bound to a selector, under the id of the binding. -/
structure Target where
  name : Value
  selector : Value
  id : Value
  deriving DecidableEq, Repr

namespace Target

/-- A target whose id is its name unless another one is given. -/
def make (name selector id : Value) : Target := ⟨name, selector, id.orElse name⟩

/-- Whether a target can be declared: it has a name and a selector. -/
def isDeclarable (t : Target) : Bool := t.name.isTruthy && t.selector.isTruthy

/-- The target that a document lists under a key. -/
def ofField (key : String) : Value → Except ModelFault Target
  | .null => .ok (make (.text key) .empty .empty)
  | .text selector => .ok (make (.text key) (.text selector) .empty)
  | value => do
    let fields ← value.record s!"target '{key}'"
    return make ((fields.get "target").orElse .empty) ((fields.get "selector").orElse .empty)
      ((fields.get "id").orElse (.text key))

end Target

/-- The targets of a document, each under its id.  A later target replaces an earlier one with
the same id, in the place of the earlier one. -/
abbrev Targets := Dict Target

namespace Targets

/-- Adds targets under their ids. -/
def addFields (targets : Targets) : Fields → Except ModelFault Targets
  | [] => .ok targets
  | (key, value) :: rest => do
    let target ← Target.ofField key value
    if target.id.key?.isNone then throw (.unhashableId target.id.kind)
    addFields (Dict.set target.id target targets) rest

/-- The targets that a document lists. -/
def ofValue (v : Value) : Except ModelFault Targets := do
  addFields [] (← v.record "targets")

/-- The targets that can be declared, in order. -/
def declarable (targets : Targets) : List Target :=
  (targets.map (·.2)).filter Target.isDeclarable

end Targets

end SuiteCompiler
