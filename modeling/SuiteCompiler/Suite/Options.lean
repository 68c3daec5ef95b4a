/-
  SuiteCompiler/Suite/Options.lean
  ================================
  The settings of one generation.  Two of them steer the generator; three more and
  every unknown field are handed on as they are.
-/
import SuiteCompiler.Suite.Fault

namespace SuiteCompiler

/-- Who reads the generated source: the runtime inside the editor, which needs a marker line
before each command, or a test runner outside it. -/
inductive Runner where
  | embedded
  | exported
  deriving DecidableEq, Repr

namespace Runner

/-- The name of a runner. -/
def name : Runner → String
  | .embedded => "embedded"
  | .exported => "export"

/-- The runners, in the order in which messages list them. -/
def all : List Runner := [.embedded, .exported]

/-- The runner of a name. -/
def ofName? (s : String) : Option Runner := all.find? (·.name = s)

/-- The names of the runners, as messages list them. -/
def names : String := ", ".intercalate (all.map name)

end Runner

/-- The settings of one generation. -/
structure Options where
  /-- Write a tracing call after every command. -/
  trace : Bool := false
  /-- Write a wait after every command. -/
  interactiveMode : Bool := false
  updateSnapshot : Value := .bool false
  incognito : Value := .bool false
  ignoreHttpsErrors : Value := .bool false
  /-- The fields without a meaning here. -/
  extra : Fields := []
  deriving DecidableEq, Repr

namespace Options

/-- The names of the settings, in the order in which a record lists them. -/
def names : List String :=
  ["trace", "interactiveMode", "updateSnapshot", "incognito", "ignoreHTTPSErrors"]

/-- The settings of a record. -/
def ofFields (fields : Fields) : Options where
  trace := (fields.get "trace").isTruthy
  interactiveMode := (fields.get "interactiveMode").isTruthy
  updateSnapshot := (fields.get? "updateSnapshot").getD (.bool false)
  incognito := (fields.get? "incognito").getD (.bool false)
  ignoreHttpsErrors := (fields.get? "ignoreHTTPSErrors").getD (.bool false)
  extra := fields.filter fun (name, _) => !names.contains name

/-- The settings of a document. -/
def ofValue (v : Value) : Except ModelFault Options := do
  return ofFields (← v.record "options")

/-- The settings that have a meaning here, under their names. -/
def known (o : Options) : Fields :=
  [("trace", .bool o.trace), ("interactiveMode", .bool o.interactiveMode),
   ("updateSnapshot", o.updateSnapshot), ("incognito", o.incognito),
   ("ignoreHTTPSErrors", o.ignoreHttpsErrors)]

/-- The settings as a record, the known ones first.  An unknown field by the name of a known one
would take its place. -/
def toFields (o : Options) : Fields := o.known.setAll o.extra

end Options

end SuiteCompiler
