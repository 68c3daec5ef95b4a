/-
  SuiteCompiler/Template/Fault.lean
  =================================
  What can go wrong while a template is filled in.
-/
import SuiteCompiler.Errors
import SuiteCompiler.Suite.Fault

namespace SuiteCompiler

/-- Why a value is not taken for a whole number. -/
inductive IntegerFault where
  /-- The text denotes no number. -/
  | notANumber (text : String)
  /-- The text has this many digits, more than are read. -/
  | tooManyDigits (count : Nat)
  /-- The value is the floating-point value that is no number. -/
  | undefined
  /-- The value is an infinite number. -/
  | infinite
  /-- Values of this kind are no numbers. -/
  | wrongKind (kind : Kind)
  deriving DecidableEq, Repr

/-- The text that reports a fault.  Of a text that is no number at most two hundred characters,
its quotes included, are shown. -/
def IntegerFault.message : IntegerFault → String
  | .notANumber s =>
    s!"invalid literal for int() with base 10: {String.ofList ((Text.quoted s).take 200)}"
  | .tooManyDigits count => Number.tooManyDigitsText count
  | .undefined => "cannot convert float NaN to integer"
  | .infinite => "cannot convert float infinity to integer"
  | .wrongKind kind =>
    "int() argument must be a string, a bytes-like object or a real number, not " ++
      s!"'{kind.name}'"

/-- Why a template yields no text. -/
inductive TemplateFault where
  /-- A parameter that the template needs is not given. -/
  | missingParameter (name : String)
  /-- A parameter is no whole number. -/
  | notAnInteger (name : String) (value : Value)
  /-- A value is no whole number, reported without its parameter. -/
  | integer (fault : IntegerFault)
  /-- The method needs an assertion with a value. -/
  | missingAssertion (method : String)
  /-- The name of a target cannot stand as an identifier. -/
  | notAnIdentifier (name : String)
  /-- The name of a target is no text. -/
  | nameNotText (kind : Kind)
  /-- There is no template of that name. -/
  | unsupported (method : Value)
  /-- A list or an object stands where something is looked up by it. -/
  | unhashable (kind : Kind)
  /-- A template supplied from outside failed with this text; `label` is its own word for the
  kind of failure. -/
  | supplied (label text : String)
  /-- The template tells of a failed generation by itself. -/
  | generation (error : GenerationError)
  deriving DecidableEq, Repr

/-- The text that reports a fault. -/
def TemplateFault.message : TemplateFault → String
  | .missingParameter name => (Value.text name).literal
  | .notAnInteger name value => s!"parameter '{name}' must be an integer, got {value.literal}"
  | .integer fault => fault.message
  | .missingAssertion method => s!"{method} requires an assertion value"
  | .notAnIdentifier name =>
    s!"target name {(Value.text name).literal} is not a valid JavaScript identifier"
  | .nameNotText kind => s!"'{kind.name}' object has no attribute 'isidentifier'"
  | .unsupported method => method.literal
  | .unhashable kind => unhashableText kind
  | .supplied _ text => text
  | .generation error => error.message

/-! ### Classes -/

/-- The class of the error that a fault of a whole number is. -/
def IntegerFault.errorClass : IntegerFault → ErrorClass
  | .notANumber _ => .value
  | .tooManyDigits _ => .value
  | .undefined => .value
  | .infinite => .overflow
  | .wrongKind _ => .type

/-- The class of the error that a fault is. -/
def TemplateFault.errorClass : TemplateFault → ErrorClass
  | .missingParameter _ => .key
  | .notAnInteger _ _ => .value
  | .integer fault => fault.errorClass
  | .missingAssertion _ => .value
  | .notAnIdentifier _ => .value
  | .nameNotText _ => .attribute
  | .unsupported _ => .key
  | .unhashable _ => .type
  | .supplied label _ => .supplied label
  | .generation _ => .generation

/-- A fault as what another error comes from. -/
def TemplateFault.cause (fault : TemplateFault) : ErrorCause := ⟨fault.errorClass, fault.message⟩

/-- The error of a generation that fails by a fault of no command.  A template that tells of a
failed generation by itself has the last word. -/
def TemplateFault.error : TemplateFault → GenerationError
  | .generation error => error
  | fault => { message := fault.message, cause := some fault.cause }

end SuiteCompiler
