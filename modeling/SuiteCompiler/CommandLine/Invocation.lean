/-
  SuiteCompiler/CommandLine/Invocation.lean
  =========================================
  What a command line asks for: the version, the list of methods, or the generation
  of the source of a suite.
-/
import SuiteCompiler.CommandLine.Arguments
import SuiteCompiler.Project.Path

namespace SuiteCompiler

/-- What a generation is told on the command line. -/
structure GenerateArguments where
  suitePath : String
  snippetsPath : Option String := none
  envPath : Option String := none
  runner : Option String := none
  trace : Bool := false
  interactive : Bool := false
  incognito : Bool := false
  ignoreHttpsErrors : Bool := false
  updateSnapshot : Bool := false
  output : Option String := none
  projectDirectory : Option String := none
  verbose : Bool := false
  deriving DecidableEq, Repr

/-- The paths of the documents that a generation reads. -/
def GenerateArguments.documentPaths (args : GenerateArguments) : List String :=
  args.suitePath :: (args.snippetsPath.toList ++ args.envPath.toList)

/-- What a command line asks for. -/
inductive Invocation where
  | help
  | version
  | methods
  | generate (args : GenerateArguments)
  /-- A path has a NUL character in it. -/
  | nulInPath
  /-- The arguments make no sense. -/
  | misuse
  deriving DecidableEq, Repr

namespace Invocation

/-- The option that every command has. -/
def helpOption : OptionSpec := { long := "help" }

/-- The options before the command. -/
def programOptions : List OptionSpec := [helpOption, { long := "version", short := some 'v' }]

/-- The options of a generation. -/
def generateOptions : List OptionSpec :=
  [helpOption,
   { long := "snippets", short := some 's', takesValue := true },
   { long := "env", short := some 'e', takesValue := true },
   { long := "runner", short := some 'r', takesValue := true },
   { long := "trace" },
   { long := "interactive", short := some 'i' },
   { long := "incognito" },
   { long := "ignore-https-errors" },
   { long := "update-snapshot" },
   { long := "output", short := some 'o', takesValue := true },
   { long := "project-dir", takesValue := true },
   { long := "verbose", short := some 'V' }]

/-- The options whose values are paths. -/
def pathOptions : List String := ["snippets", "env", "output", "project-dir"]

/-- The generation that arguments ask for.  The values of options are looked at before the number
of the other arguments is. -/
def ofGenerate (args : List String) : Invocation :=
  match Arguments.parse generateOptions true args with
  | none => .misuse
  | some parsed =>
    if parsed.has "help" then .help
    else if (pathOptions.filterMap parsed.value?).any Path.hasNul then .nulInPath
    else
      match parsed.positional with
      | [] => .misuse
      | suitePath :: more =>
        if Path.hasNul suitePath then .nulInPath
        else if !more.isEmpty then .misuse
        else
          .generate {
            suitePath
            snippetsPath := parsed.value? "snippets"
            envPath := parsed.value? "env"
            runner := parsed.value? "runner"
            trace := parsed.has "trace"
            interactive := parsed.has "interactive"
            incognito := parsed.has "incognito"
            ignoreHttpsErrors := parsed.has "ignore-https-errors"
            updateSnapshot := parsed.has "update-snapshot"
            output := parsed.value? "output"
            projectDirectory := parsed.value? "project-dir"
            verbose := parsed.has "verbose" }

/-- The list of methods, which takes no arguments. -/
def ofMethods (args : List String) : Invocation :=
  match Arguments.parse [helpOption] true args with
  | none => .misuse
  | some parsed =>
    if parsed.has "help" then .help
    else if parsed.positional.isEmpty then .methods
    else .misuse

/-- What an option of the program asks for.  The first one decides. -/
def ofOption? (parsed : ParsedArguments) : Option Invocation :=
  match parsed.options with
  | [] => none
  | (name, _) :: _ => some (if name = "version" then .version else .help)

/-- What arguments ask for that name no command: they may be options after two dashes. -/
def ofUnknown (args : List String) : Invocation :=
  ((Arguments.parse programOptions false args).bind ofOption?).getD .misuse

/-- What a command line asks for.  The version and the help come before any command. -/
def ofArguments (args : List String) : Invocation :=
  match Arguments.parse programOptions false args with
  | none => .misuse
  | some parsed =>
    match ofOption? parsed, parsed.positional with
    | some invocation, _ => invocation
    | none, [] => .misuse
    | none, command :: rest =>
      if command = "generate" then ofGenerate rest
      else if command = "schema" then ofMethods rest
      else ofUnknown (command :: rest)

/-- The paths of the documents that are read for what a command line asks for. -/
def documentPaths : Invocation → List String
  | .generate args => args.documentPaths
  | _ => []

end Invocation

end SuiteCompiler
