/-
  SuiteCompiler/CommandLine/Report.lean
  =====================================
  A run of the command line as what it does, step by step, and how it ends.  Steps
  are told apart from what appears of them: a message is printed through its markup, as
  the screen shows it, and a message that cannot be printed ends the run where it stands.
-/
import SuiteCompiler.Console.Message
import SuiteCompiler.Console.Screen
import SuiteCompiler.Console.Sequences
import SuiteCompiler.Generation.Log
import SuiteCompiler.Project.Files

namespace SuiteCompiler

/-- What ends a run without a status of its own. -/
inductive Crash where
  /-- A list or an object stands where something is looked up by it. -/
  | unhashable
  /-- A whole number has more digits than are read. -/
  | tooManyDigits
  /-- The path of a document is too long, or a name on its way is. -/
  | nameTooLong
  /-- There is a NUL character in a path. -/
  | nulInPath
  /-- A message cannot be printed. -/
  | message (fault : Console.MessageFault)
  /-- The output cannot be written. -/
  | write (fault : WriteFault)
  /-- There is half of a pair in the source, and no text in UTF-8 has one. -/
  | notEncodable
  deriving DecidableEq, Repr

/-- One thing that a run does. -/
inductive Step where
  | log (record : LogRecord)
  /-- A message with markup, on standard error. -/
  | message (markup : String)
  /-- Text on standard output. -/
  | output (text : String)
  | write (path : Path) (text : String)
  deriving DecidableEq, Repr

/-- How a run ends. -/
inductive Ending where
  | exit (status : Nat)
  | crash (cause : Crash)
  deriving DecidableEq, Repr

/-- What a run does, and how it ends. -/
structure Report where
  steps : List Step
  ending : Ending
  deriving DecidableEq, Repr

/-- What appears of a run. -/
structure Transcript where
  /-- What standard error is shown on. -/
  screen : Console.Screen
  stdout : String := ""
  stderr : String := ""
  /-- The files after the run. -/
  files : Files
  ending : Ending

namespace LogRecord

/-- The name of the component that keeps the log. -/
def source : String := "suitegen.core.generator"

/-- A record as a line on standard error. -/
def line (r : LogRecord) : String := s!"{r.level.name} {source}: {r.text}\n"

end LogRecord

namespace Transcript

/-- What appears of steps, after what has appeared before them. -/
def perform (t : Transcript) : List Step → Transcript
  | [] => t
  | .log record :: rest => perform { t with stderr := t.stderr ++ record.line } rest
  | .output text :: rest =>
    perform { t with stdout := t.stdout ++ Console.dropSequences text } rest
  | .message markup :: rest =>
    match Console.Message.render markup with
    | .ok text => perform { t with stderr := t.stderr ++ t.screen.wrap text ++ "\n" } rest
    | .error fault => { t with ending := .crash (.message fault) }
  | .write path text :: rest =>
    match t.files.write path text.toUTF8.toList with
    | .ok (files, _) => perform { t with files } rest
    | .error fault => { t with ending := .crash (.write fault) }

end Transcript

/-- What appears of a run on a screen. -/
def Report.perform (screen : Console.Screen) (files : Files) (r : Report) : Transcript :=
  Transcript.perform { screen, files, ending := r.ending } r.steps

end SuiteCompiler
