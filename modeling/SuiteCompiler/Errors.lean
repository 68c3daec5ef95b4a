/-
  SuiteCompiler/Errors.lean
  =========================
  Errors as they are told.  An error of the program is of some kind, and every kind but
  the widest is one of a wider kind.  An error of a template is of a class of its own.
  The error of a generation tells where the generation failed, as far as it failed at a
  command, and what the error comes from.
-/
import SuiteCompiler.Document.Literal

namespace SuiteCompiler

/-! ### Kinds -/

/-- The kinds of the errors of the program. -/
inductive ErrorKind where
  /-- Any error. -/
  | any
  /-- An error that comes again until the input is changed. -/
  | permanent
  | configuration
  /-- A renderer cannot be registered. -/
  | schema
  /-- A document does not have the expected structure. -/
  | model
  /-- A file is no document. -/
  | load
  | generation
  deriving DecidableEq, Repr

namespace ErrorKind

/-- The wider kinds that a kind is one of, the narrowest first. -/
def wider : ErrorKind → List ErrorKind
  | .any => []
  | .permanent => [.any]
  | .configuration | .schema | .model | .load | .generation => [.permanent, .any]

/-- What a wider kind is one of, the kind itself is one of. -/
theorem mem_wider_trans {a b c : ErrorKind} (hb : b ∈ a.wider) (hc : c ∈ b.wider) :
    c ∈ a.wider := by
  cases a <;> cases b <;> simp_all [wider]

end ErrorKind

/-- The text of an error that is made of values: of a single one it is what a message shows. -/
def errorText : List Value → String
  | [] => ""
  | [v] => v.display
  | vs => "(" ++ ", ".intercalate (vs.map Value.literal) ++ ")"

/-! ### Errors of templates -/

/-- The classes of the errors in which a template can end. -/
inductive ErrorClass where
  | key
  | value
  | type
  | overflow
  | attribute
  /-- The error of a generation. -/
  | generation
  /-- A class of errors of a template supplied from outside. -/
  | supplied (label : String)
  deriving DecidableEq, Repr

/-- The error that another one comes from. -/
structure ErrorCause where
  errorClass : ErrorClass
  text : String
  deriving DecidableEq, Repr

/-! ### Errors of generations -/

/-- A target and a method as messages name them together. -/
def locationText (target method : Value) : String := s!"{target.display}.{method.display}"

/-- The error of a generation.  What is not known of the command that failed is null. -/
structure GenerationError where
  message : String
  target : Value := .null
  method : Value := .null
  commandId : Value := .null
  groupId : Value := .null
  testId : Value := .null
  cause : Option ErrorCause := none
  deriving DecidableEq, Repr

/-- The target and the method of the command, if both are known. -/
def GenerationError.location (e : GenerationError) : Option String :=
  if e.target.kind = .null ∨ e.method.kind = .null then none
  else some (locationText e.target e.method)

end SuiteCompiler
