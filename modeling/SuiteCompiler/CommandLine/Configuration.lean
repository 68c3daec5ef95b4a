/-
  SuiteCompiler/CommandLine/Configuration.lean
  ============================================
  The configuration that the environment gives.
-/
import SuiteCompiler.Generation.Instrumentation
import SuiteCompiler.Generation.Log
import SuiteCompiler.Project.Path
import SuiteCompiler.Suite.Options
import SuiteCompiler.Text.Blank
import SuiteCompiler.Text.Letters

namespace SuiteCompiler

/-- The variables of an environment. -/
abbrev Environment := List (String × String)

/-- What the environment decides. -/
structure Configuration where
  outputDirectory : Path
  runner : Runner
  illegalMethods : List String
  logLevel : LogLevel
  deriving DecidableEq, Repr

/-- Why an environment gives no configuration. -/
inductive ConfigurationFault where
  | unknownRunner (value : String)
  | unknownLogLevel (value : String)
  deriving DecidableEq, Repr

namespace Configuration

/-! ### The variables -/

/-- The variable with the directory that the generated source is for. -/
def outputVariable : String := "SUITEGEN_OUTPUT"

/-- The variable with the runner of a generation that is not told one. -/
def runnerVariable : String := "SUITEGEN_RUNNER"

/-- The variable with the methods that are never waited after. -/
def illegalMethodsVariable : String := "SUITEGEN_INTERACTIVE_ILLEGAL_METHODS"

/-- The variable with the least severe level that is shown. -/
def logLevelVariable : String := "SUITEGEN_LOG_LEVEL"

/-- Every variable that is looked at. -/
def variableNames : List String :=
  [outputVariable, runnerVariable, illegalMethodsVariable, logLevelVariable]

/-! ### Their values -/

/-- The items of a list that is written with commas: stripped, and without the empty ones. -/
def parseList (value : String) : List String :=
  ((Text.split ',' value).map Text.strip).filter (· ≠ "")

/-- The runner that a value names, in any case and with white space around it. -/
def parseRunner (value : String) : Except ConfigurationFault Runner :=
  match Runner.ofName? (Text.lower (Text.strip value)) with
  | some runner => .ok runner
  | none => .error (.unknownRunner value)

/-- The level that a value names, in any case and with white space around it. -/
def parseLogLevel (value : String) : Except ConfigurationFault LogLevel :=
  match LogLevel.ofName? (Text.upper (Text.strip value)) with
  | some level => .ok level
  | none => .error (.unknownLogLevel value)

/-- The configuration that an environment gives. -/
def ofEnvironment (env : Environment) : Except ConfigurationFault Configuration := do
  let runner ← ((env.lookup runnerVariable).map parseRunner).getD (.ok .exported)
  let logLevel ← ((env.lookup logLevelVariable).map parseLogLevel).getD (.ok .warning)
  return {
    outputDirectory := Path.ofString ((env.lookup outputVariable).getD "./output")
    runner
    illegalMethods := ((env.lookup illegalMethodsVariable).map parseList).getD
      Instrumentation.defaultIllegalMethods
    logLevel }

end Configuration

/-- The text that reports a fault. -/
def ConfigurationFault.message : ConfigurationFault → String
  | .unknownRunner value =>
    s!"Invalid value for {Configuration.runnerVariable}: '{value}' " ++
      s!"(expected one of: {Runner.names})"
  | .unknownLogLevel value =>
    s!"Invalid value for {Configuration.logLevelVariable}: '{value}' is not a logging level"

end SuiteCompiler
