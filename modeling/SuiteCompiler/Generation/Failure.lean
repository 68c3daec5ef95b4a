/-
  SuiteCompiler/Generation/Failure.lean
  =====================================
  How a generation fails.  A failure of a command carries the place of the command; a
  failure above the commands has none.  The error that is told in the end is made of the
  failure, unless a template tells of a failed generation by itself: that passes as it is.
-/
import SuiteCompiler.Template.Fault
import SuiteCompiler.Suite.Command

namespace SuiteCompiler

/-- A command that could not be rendered, and why. -/
structure CommandFailure where
  fault : TemplateFault
  target : Value
  method : Value
  commandId : String
  groupId : Value
  testId : Value
  deriving DecidableEq, Repr

namespace CommandFailure

/-- The failure of a command. -/
def of (c : Command) (fault : TemplateFault) : CommandFailure :=
  ⟨fault, c.target, c.method, c.id, c.groupId, c.testId⟩

/-- The target and the method of the command. -/
def location (f : CommandFailure) : String := locationText f.target f.method

/-- The text that reports the failure. -/
def message (f : CommandFailure) : String := s!"{f.fault.message} in {f.location}"

/-- The error of a generation that fails at the command. -/
def error (f : CommandFailure) : GenerationError where
  message := f.message
  target := f.target
  method := f.method
  commandId := .text f.commandId
  groupId := f.groupId
  testId := f.testId
  cause := some f.fault.cause

end CommandFailure

/-- Why a part of a suite could not be rendered. -/
inductive RenderFailure where
  /-- A command failed. -/
  | command (failure : CommandFailure)
  /-- A template above the commands failed, or a snippet could not be looked up. -/
  | template (fault : TemplateFault)
  deriving DecidableEq, Repr

namespace RenderFailure

/-- The text that reports the failure. -/
def message : RenderFailure → String
  | .command failure => failure.message
  | .template fault => fault.message

/-- The error of a generation that fails. -/
def error : RenderFailure → GenerationError
  | .command failure => failure.error
  | .template fault => fault.error

/-- The error has the text that reports the failure. -/
theorem message_error (failure : RenderFailure) : failure.error.message = failure.message := by
  cases failure with
  | command failure => rfl
  | template fault => cases fault <;> rfl

end RenderFailure

end SuiteCompiler
