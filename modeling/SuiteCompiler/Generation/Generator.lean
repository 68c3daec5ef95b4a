/-
  SuiteCompiler/Generation/Generator.lean
  =======================================
  The generator: the groups, tests and commands of a suite in their order, each
  command rendered by the schema, with a marker before it and a tracing call and a
  wait after it as the options ask.  A reference is replaced by its snippet; the
  references inside a snippet are left out, so libraries that refer to themselves
  do no harm.  The first failure ends the generation.
-/
import SuiteCompiler.Generation.Declarations
import SuiteCompiler.Generation.Failure
import SuiteCompiler.Generation.Fragment
import SuiteCompiler.Generation.Instrumentation
import SuiteCompiler.Generation.Log
import SuiteCompiler.Generation.Marker
import SuiteCompiler.Suite.Snippets
import SuiteCompiler.Template.Schema

namespace SuiteCompiler

/-- Everything that a generation depends on. -/
structure GeneratorInput where
  suite : Suite
  schema : Schema
  snippets : SnippetLibrary := .empty
  runner : Runner := .exported
  projectDirectory : Value := .empty
  outputDirectory : Value := .empty
  env : Fields := []
  options : Options := {}
  /-- The methods that are never followed by a wait. -/
  illegalMethods : List Value := Instrumentation.defaultIllegalMethods.map .text

/-- The targets of the suite and of the snippets. -/
def GeneratorInput.resolver (input : GeneratorInput) : TargetResolver :=
  TargetResolver.ofTargets input.suite.targets input.snippets.targets

/-- A generation whose targets are bound: `selectors` is the table of its resolver. -/
structure Generator extends GeneratorInput where
  selectors : Dict Value
  selectors_eq : toGeneratorInput.resolver.selectorTable = .ok selectors

namespace Generator

/-- Binds the targets of a generation.  A list or an object among the methods without a wait, or
as the name of a target, makes it impossible. -/
def ofInput (input : GeneratorInput) : Except TemplateFault Generator :=
  match input.illegalMethods.find? (·.key?.isNone) with
  | some v => .error (.unhashable v.kind)
  | none =>
    match h : input.resolver.selectorTable with
    | .error fault => .error fault
    | .ok selectors => .ok { input with selectors, selectors_eq := h }

/-! ### Commands -/

/-- The selector of the target of a command, null if none is bound. -/
def selector (g : Generator) (target : Value) : Except TemplateFault Value :=
  if target.key?.isNone then .error (.unhashable target.kind)
  else .ok ((g.selectors.get? target).getD .null)

/-- What the renderer of a command is given. -/
def context (c : Command) (selector : Value) (method : String) : RenderContext where
  target := c.target
  assertion := c.assertion
  params := c.params
  selector := selector
  method := method
  commandId := .text c.id
  testId := c.testId

/-- Whether a wait follows the commands of a method. -/
def waitsAfter (g : Generator) (method : String) : Bool :=
  g.options.interactiveMode && !g.illegalMethods.any (·.sameKey (.text method))

/-- The source of a command that a renderer has turned into `chunk`. -/
def instrument (g : Generator) (c : Command) (method chunk : String) : Fragment :=
  let traced := if g.options.trace then chunk ++ Instrumentation.trace c else chunk
  let waits := g.waitsAfter method
  let awaited := if waits then traced ++ Instrumentation.wait c.id else traced
  let ids := if waits then [c.id] else []
  match g.runner with
  | .embedded => ⟨s!"{Marker.line c}\n{awaited}", ids⟩
  | .exported => ⟨awaited, ids⟩

/-- The source of a command that is no reference, none if its method has no renderer. -/
def renderPlain? (g : Generator) (c : Command) : Except TemplateFault (Option Fragment) := do
  match ← g.schema.find? c.kind c.method with
  | none => return none
  | some (method, renderer) =>
    let selector ← g.selector c.target
    let chunk ← renderer (context c selector method)
    return some (g.instrument c method chunk)

/-- The source of a command that is no reference.  A method without a renderer yields none. -/
def renderPlain (g : Generator) (c : Command) : Logged RenderFailure Fragment := do
  match g.renderPlain? c with
  | .ok (some fragment) => return fragment
  | .ok none =>
    Logged.log .debug
      s!"No template for {c.kind.name}.{c.method.display}, skipping command {c.id}"
    return Fragment.empty
  | .error fault =>
    let failure := CommandFailure.of c fault
    let place := s!"(group {c.groupId.display}, test {c.testId.display})"
    Logged.log .warning
      s!"Failed to render command {c.id} {place} {failure.location}: {fault.message}"
    Logged.fail (.command failure)

/-! ### References -/

/-- The commands of a snippet that are no references, each rendered. -/
def renderSnippet (g : Generator) (ref : Value) :
    List Command → Logged RenderFailure (List Fragment)
  | [] => return []
  | c :: rest => do
    if c.isRef then
      Logged.log .debug
        s!"Nested reference '{c.ref.display}' in snippet '{ref.display}' skipped"
      g.renderSnippet ref rest
    else
      let fragment ← g.renderPlain c
      let fragments ← g.renderSnippet ref rest
      return fragment :: fragments

/-- The assignment of the variables of a reference, if it has any. -/
def assignment (bindings : Fields) : String :=
  if bindings.isEmpty then "" else Instrumentation.assignment bindings

/-- The snippet that a reference names, with the variables of the reference set before it.  A
reference that names no snippet yields nothing. -/
def renderReference (g : Generator) (ref : Value) (bindings : Fields) :
    Logged RenderFailure Fragment := do
  match g.snippets.getTest? ref with
  | .error kind => Logged.fail (.template (.unhashable kind))
  | .ok none =>
    Logged.log .debug s!"Snippet '{ref.display}' not found, skipping reference"
    return Fragment.empty
  | .ok (some test) =>
    let body := Fragment.join (← g.renderSnippet ref test.enabledCommands) "\n"
    return ⟨Instrumentation.fence test.title body.text (assignment bindings),
      body.interactiveIds⟩

/-- The source of a command; a disabled one has none. -/
def renderCommand (g : Generator) (c : Command) : Logged RenderFailure Fragment :=
  if c.disabled then return Fragment.empty
  else if c.isRef then g.renderReference c.ref (c.bindings.getD [])
  else g.renderPlain c

/-! ### Tests, groups and the suite -/

/-- The text of a template above the commands. -/
def above {α : Type} (text : Except TemplateFault α) : Logged RenderFailure α :=
  Logged.lift (text.mapError .template)

/-- The title of a test as it is reported: its own title and its id in braces. -/
def testTitle (t : Test) : String := s!"{t.title.display} \x7b{t.id}\x7d"

/-- The source of a test; one without enabled commands has none. -/
def renderTest (g : Generator) (t : Test) : Logged RenderFailure Fragment := do
  if t.enabledCommands.isEmpty then return Fragment.empty
  else
    let body := Fragment.join (← Logged.each g.renderCommand t.enabledCommands) "\n"
    let text ← above (g.schema.composer.test (.text (testTitle t)) body.text)
    return ⟨text, body.interactiveIds⟩

/-- The source of a group; one in which no test has any has none. -/
def renderGroup (g : Generator) (group : Group) : Logged RenderFailure Fragment := do
  let tests := (← Logged.each g.renderTest group.enabledTests).filter Fragment.isTruthy
  if tests.isEmpty then return Fragment.empty
  else
    let body := Fragment.join tests "\n"
    let text ← above (g.schema.composer.group group.title body.text)
    return ⟨text, body.interactiveIds⟩

/-- What the composer is given of the suite. -/
def suiteContext (g : Generator) (targets : String) (body : Fragment) : SuiteContext where
  title := g.suite.title
  targets
  suite := g.suite
  runner := g.runner
  env := g.env
  options := g.options
  projectDirectory := g.projectDirectory
  outputDirectory := g.outputDirectory
  interactiveIds := body.interactiveIds
  body := body.text

/-- The declarations and the suite around the groups. -/
def composeSuite (g : Generator) (body : Fragment) : Except TemplateFault Fragment := do
  let targets ← g.resolver.render g.schema.composer
  let source ← g.schema.composer.suite (g.suiteContext targets body)
  return ⟨source, body.interactiveIds⟩

/-- The source of the suite, and the number of groups in it. -/
def renderSuite (g : Generator) : Logged RenderFailure (Fragment × Nat) := do
  let groups := (← Logged.each g.renderGroup g.suite.enabledGroups).filter Fragment.isTruthy
  let source ← above (g.composeSuite (Fragment.join groups "\n"))
  return (source, groups.length)

/-- The source of the suite and the ids of the commands that are followed by a wait, in order. -/
def generate (g : Generator) : Logged RenderFailure Fragment :=
  let rendered := g.renderSuite
  let title := g.suite.title.display
  match rendered.outcome with
  | .ok (source, count) =>
    let stops := source.interactiveIds.length
    ⟨.ok source, rendered.records ++
      [⟨.info, s!"Generated '{title}': {count} group(s), {stops} interactive stop(s)"⟩]⟩
  | .error failure =>
    ⟨.error failure, rendered.records ++
      [⟨.warning, s!"Generation of '{title}' failed: {failure.message}"⟩]⟩

end Generator

end SuiteCompiler
