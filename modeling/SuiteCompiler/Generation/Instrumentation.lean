/-
  SuiteCompiler/Generation/Instrumentation.lean
  =============================================
  The source that the generator puts around rendered commands, whatever the schema:
  tracing calls, waits, the assignment of variables, and the lines that mark where
  a snippet begins and ends.
-/
import SuiteCompiler.Suite.Command
import SuiteCompiler.Document.Writer

namespace SuiteCompiler.Instrumentation

/-- The time that a wait may take, in milliseconds: a quarter of an hour. -/
def waitTimeout : Nat := 900000

/-- The attribute by which the runtime releases a command. -/
def waitAttribute : String := "data-suitegen-next"

/-- The methods that are never followed by a wait unless others are named. -/
def defaultIllegalMethods : List String := ["setViewport"]

/-- The entry of a target in a tracing call. -/
def traceEntry (target : Value) : String :=
  let name := target.display
  s!"\"{name}\": async () => await {name}()"

/-- The targets that a tracing call captures. -/
def tracedTargets (c : Command) : List Value :=
  if c.secondTarget.isTruthy then [c.target, c.secondTarget] else [c.target]

/-- The call that captures the state of the page or of the targets after a command. -/
def trace (c : Command) : String :=
  let call :=
    match c.kind with
    | .page => s!"      await bs.tracePage( \"{c.id}\" );"
    | .element =>
      let entries := ", ".intercalate ((tracedTargets c).map traceEntry)
      s!"      await bs.traceTarget( \"{c.id}\", \x7b {entries} \x7d);"
  "\n      // Tracing... \n" ++ call

/-- The wait until the runtime releases a command. -/
def wait (commandId : String) : String :=
  let selector := s!"body[{waitAttribute}=\"{commandId}\"]"
  let quote := "\x60"
  s!"\n    await bs.page.waitForSelector({quote}{selector}{quote}, " ++
    s!"\x7b timeout: {waitTimeout} \x7d);"

/-- The statement that sets variables. -/
def assignment (bindings : Fields) : String :=
  s!"      Object.assign( ENV, {(Value.object bindings).json .compact} );\n"

/-- A snippet between its first and its last line. -/
def fence (title : Value) (body assignment : String) : String :=
  let name := title.display
  s!"      // SNIPPET {name}: START\n{assignment}{body}\n      // SNIPPET {name}: END\n"

end SuiteCompiler.Instrumentation
