/-
  SuiteCompiler/CommandLine/Run.lean
  ==================================
  Runs of the command line as functions of the files, the environment and the
  arguments.  The status tells how a run ended: two if it could not begin, one if
  the source could not be generated, nought if it was.
-/
import SuiteCompiler.CommandLine.Configuration
import SuiteCompiler.CommandLine.Invocation
import SuiteCompiler.CommandLine.Report
import SuiteCompiler.Generation.Generator
import SuiteCompiler.Jest.Composer
import SuiteCompiler.Project.Loading

namespace SuiteCompiler.CommandLine

/-! ### Before the generation -/

/-- A run that ends with a message. -/
def stop (status : Nat) (message : String) : Report := ⟨[.message message], .exit status⟩

/-- The runner that a generation is told, or else the configured one. -/
def selectRunner (config : Configuration) : Option String → Except String Runner
  | none => .ok config.runner
  | some name =>
    if name = "" then .ok config.runner
    else
      match Runner.ofName? (Text.lower name) with
      | some runner => .ok runner
      | none => .error name

/-- The documents of a generation. -/
structure Documents where
  suite : Suite
  snippets : SnippetLibrary
  env : Fields

/-- Loads the documents that the arguments name, each by the text of its path. -/
def loadDocuments (files : Files) (args : GenerateArguments) : Except LoadFault Documents := do
  let text := fun (path : String) => (Path.ofString path).text
  let suite ← files.loadSuite (text args.suitePath)
  let snippets ← files.loadSnippets (args.snippetsPath.map text)
  let env ←
    match args.envPath with
    | none => pure []
    | some path => files.loadObject (text path)
  return { suite, snippets, env }

/-- A run that ends because a document is not loaded. -/
def loadFailed (fault : LoadFault) : Report :=
  match fault with
  | .unhashable _ => ⟨[], .crash .unhashable⟩
  | .tooManyDigits _ => ⟨[], .crash .tooManyDigits⟩
  | .nameTooLong _ => ⟨[], .crash .nameTooLong⟩
  | fault => stop 2 s!"[red]Error:[/red] {fault.message}"

/-- What the generator is given. -/
def generatorInput (config : Configuration) (runner : Runner) (args : GenerateArguments)
    (documents : Documents) : GeneratorInput where
  suite := documents.suite
  schema := Jest.schema
  snippets := documents.snippets
  runner := runner
  projectDirectory :=
    match args.projectDirectory with
    | some path => .text (Path.ofString path).text
    | none => .text (Path.ofString args.suitePath).parent.text
  outputDirectory := .text config.outputDirectory.text
  env := documents.env
  options := {
    trace := args.trace
    interactiveMode := args.interactive
    updateSnapshot := .bool args.updateSnapshot
    incognito := .bool args.incognito
    ignoreHttpsErrors := .bool args.ignoreHttpsErrors }
  illegalMethods := config.illegalMethods.map .text

/-! ### The generation and after it -/

/-- The records that are severe enough to be shown. -/
def shownRecords (config : Configuration) (verbose : Bool) (records : List LogRecord) :
    List Step :=
  let least := if verbose then LogLevel.debug else config.logLevel
  (records.filter fun r => least.rank ≤ r.level.rank).map Step.log

/-- The text about the place of the command that failed. -/
def placeText (e : GenerationError) : String :=
  let place := s!"group {e.groupId.display}, test {e.testId.display}"
  s!"  command {e.commandId.display} in {place}"

/-- The messages about a generation that failed.  The place is named if the command has an id. -/
def failureMessages (e : GenerationError) : List Step :=
  let message := Step.message s!"[red]Generation failed:[/red] {e.message}"
  if e.commandId.isTruthy then [message, .message (placeText e)] else [message]

/-- What is done with generated source: it is written to a file or to standard output, and the
commands that are followed by a wait are named. -/
def deliver (args : GenerateArguments) (source : Fragment) : List Step :=
  let delivery :=
    match args.output with
    | none => [Step.output source.text]
    | some path =>
      let path := Path.ofString path
      [.write path source.text, .message s!"[green]Wrote[/green] {path.text}"]
  let stops :=
    if args.interactive then
      let ids := ", ".intercalate source.interactiveIds
      let ids := if ids = "" then "none" else ids
      [Step.message s!"Interactive stops: {ids}"]
    else []
  delivery ++ stops

/-- Whether a document that the arguments name has half of a pair in one of its texts. -/
def readsHalves (files : Files) (args : GenerateArguments) : Bool :=
  args.documentPaths.any fun path => files.hasHalves (Path.ofString path).text

/-- A run that has its source.  A file for a source with half of a pair in it is made and stays
empty. -/
def finish (halves : Bool) (args : GenerateArguments) (log : List Step) (source : Fragment) :
    Report :=
  match args.output with
  | some path =>
    if halves && source.text.toList.contains Json.halfChar then
      ⟨log ++ [.write (Path.ofString path) ""], .crash .notEncodable⟩
    else ⟨log ++ deliver args source, .exit 0⟩
  | none => ⟨log ++ deliver args source, .exit 0⟩

/-- A run that generates the source of a suite. -/
def generate (files : Files) (env : Environment) (args : GenerateArguments) : Report :=
  match Configuration.ofEnvironment env with
  | .error fault => stop 2 s!"[red]Configuration error:[/red] {fault.message}"
  | .ok config =>
    match selectRunner config args.runner with
    | .error name => stop 2 s!"[red]Error:[/red] Unknown runner '{name}' ({Runner.names})"
    | .ok runner =>
      match loadDocuments files args with
      | .error fault => loadFailed fault
      | .ok documents =>
        match Generator.ofInput (generatorInput config runner args documents) with
        | .error _ => ⟨[], .crash .unhashable⟩
        | .ok generator =>
          let result := generator.generate
          let log := shownRecords config args.verbose result.records
          match result.outcome with
          | .error failure => ⟨log ++ failureMessages failure.error, .exit 1⟩
          | .ok source => finish (readsHalves files args) args log source

/-! ### Every command -/

/-- The version of the program. -/
def version : String := "0.1.0"

/-- The methods of the built-in schema, a line for each kind of target. -/
def methodLines : String :=
  let line := fun (kind : TargetKind) =>
    let methods := ", ".intercalate (Jest.schema.methods kind)
    s!"{kind.name}: {methods}\n"
  "".intercalate (TargetKind.all.map line)

/-- What the program can be asked for. -/
def helpText : String :=
  "suitegen [--version] generate SUITE_PATH [OPTIONS]\nsuitegen schema\n"

/-- The run that a command line asks for; none if its arguments make no sense. -/
def run? (files : Files) (env : Environment) (args : List String) : Option Report :=
  match Invocation.ofArguments args with
  | .misuse => none
  | .nulInPath => some ⟨[], .crash .nulInPath⟩
  | .help => some ⟨[.output helpText], .exit 0⟩
  | .version => some ⟨[.output s!"suitegen v{version}\n"], .exit 0⟩
  | .methods => some ⟨[.output methodLines], .exit 0⟩
  | .generate args => some (generate files env args)

end SuiteCompiler.CommandLine
