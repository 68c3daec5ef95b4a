/-
  SuiteCompiler/Generation/Fragment.lean
  ======================================
  Pieces of generated source, each with the ids of the commands in it that are
  followed by a wait.
-/

namespace SuiteCompiler

/-- A piece of source. -/
structure Fragment where
  text : String := ""
  interactiveIds : List String := []
  deriving DecidableEq, Repr

namespace Fragment

/-- The piece without source. -/
def empty : Fragment := {}

/-- Whether there is any source. -/
def isTruthy (f : Fragment) : Bool := f.text ≠ ""

/-- Pieces put together in order. -/
def join (fragments : List Fragment) (separator : String) : Fragment where
  text := separator.intercalate (fragments.map Fragment.text)
  interactiveIds := fragments.flatMap Fragment.interactiveIds

end Fragment

end SuiteCompiler
