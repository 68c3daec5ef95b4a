/-
  SuiteCompiler/Main.lean
  =======================
  The program.  It reads the variables and the documents that a run needs, asks what
  the run does, and does it.  Nothing is decided here.
-/
import SuiteCompiler.CommandLine.Run

namespace SuiteCompiler

/-- The environment, as far as it is looked at. -/
def readEnvironment : IO Environment :=
  Configuration.variableNames.filterMapM fun name => do
    return (← IO.getEnv name).map (name, ·)

/-- The files that paths lead to, as far as they can be read. -/
def readFiles (files : Files) : List String → IO Files
  | [] => return files
  | path :: paths => do
    let path := Path.ofString path
    match ← (IO.FS.readBinFile path.text).toBaseIO with
    | .ok content =>
      match files.write path content.toList with
      | .ok (files, _) => readFiles files paths
      | .error _ => readFiles files paths
    | .error _ => readFiles files paths

/-- Ends a run for a reason that is not one of its own. -/
def stopRun (reason : String) : IO UInt32 := do
  IO.eprintln reason
  return 1

/-- Does the steps of a run, and gives its status. -/
def performSteps (ending : Ending) : List Step → IO UInt32
  | [] =>
    match ending with
    | .exit status => return status.toUInt32
    | .crash _ => stopRun "suitegen: a document cannot be used"
  | .log record :: steps => do
    IO.eprint record.line
    performSteps ending steps
  | .output text :: steps => do
    IO.print (Console.dropSequences text)
    performSteps ending steps
  | .message markup :: steps => do
    match Console.Message.render markup with
    | .ok text =>
      IO.eprintln (Console.Screen.endless.wrap text)
      performSteps ending steps
    | .error _ => stopRun "suitegen: a message cannot be printed"
  | .write path text :: steps => do
    let written : IO Unit := do
      IO.FS.createDirAll path.parent.text
      IO.FS.writeFile path.text text
    match ← written.toBaseIO with
    | .ok _ => performSteps ending steps
    | .error e => stopRun s!"suitegen: {e}"

end SuiteCompiler

open SuiteCompiler in
/-- Runs what the command line asks for. -/
def main (args : List String) : IO UInt32 := do
  let env ← readEnvironment
  let files ← readFiles {} (Invocation.ofArguments args).documentPaths
  match CommandLine.run? files env args with
  | none =>
    IO.eprint CommandLine.helpText
    return 2
  | some report => performSteps report.ending report.steps
