/-
  SuiteCompiler/Generation/Declarations.lean
  ==========================================
  The targets of a suite and of its snippets together.  A target of the suite takes
  precedence over one of the snippets; a target without a name or a selector takes
  no part.
-/
import SuiteCompiler.Template.Basic

namespace SuiteCompiler

/-- The declarable targets of a suite and of its snippets. -/
structure TargetResolver where
  suite : List Target
  snippets : List Target
  deriving DecidableEq, Repr

namespace TargetResolver

/-- The resolver of two collections of targets. -/
def ofTargets (suite snippets : Targets) : TargetResolver :=
  ⟨suite.declarable, snippets.declarable⟩

/-- Binds the names of targets to their selectors; a list or an object is no name. -/
def bind (table : Dict Value) : List Target → Except TemplateFault (Dict Value)
  | [] => .ok table
  | t :: rest =>
    if t.name.key?.isNone then .error (.unhashable t.name.kind)
    else bind (Dict.set t.name t.selector table) rest

/-- The selector of every name: the last target of the suite by that name decides, or else the
last one of the snippets. -/
def selectorTable (r : TargetResolver) : Except TemplateFault (Dict Value) :=
  bind [] (r.snippets ++ r.suite)

/-- Whether a target shares its id or its name with a target of the suite. -/
def isShadowed (r : TargetResolver) (t : Target) : Bool :=
  r.suite.any fun s => s.id.sameKey t.id || s.name.sameKey t.name

/-- The targets to declare: those of the snippets that the suite does not shadow, then those of
the suite. -/
def declarations (r : TargetResolver) : List Target :=
  r.snippets.filter (!r.isShadowed ·) ++ r.suite

/-- The declarations of a list of targets. -/
def declare (composer : Composer) : List Target → Except TemplateFault (List String)
  | [] => .ok []
  | t :: rest => do
    let text ← composer.query t
    let texts ← declare composer rest
    return text :: texts

/-- The declarations as lines of source. -/
def render (r : TargetResolver) (composer : Composer) : Except TemplateFault String := do
  return "\n".intercalate (← declare composer r.declarations)

end TargetResolver

end SuiteCompiler
