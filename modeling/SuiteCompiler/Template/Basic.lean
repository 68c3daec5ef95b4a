/-
  SuiteCompiler/Template/Basic.lean
  =================================
  Templates as functions: a renderer turns a command into source, and a composer
  puts rendered commands together to tests, groups and a suite.
-/
import SuiteCompiler.Suite.Basic
import SuiteCompiler.Suite.Options
import SuiteCompiler.Template.Fault

namespace SuiteCompiler

/-- What a renderer is given of a command. -/
structure RenderContext where
  target : Value
  assertion : Option Fields
  params : Fields
  /-- The selector that is bound to the target, null if none is. -/
  selector : Value
  method : String
  commandId : Value
  testId : Value

/-- A template of one method. -/
abbrev Renderer := RenderContext → Except TemplateFault String

/-- What a composer is given of a suite. -/
structure SuiteContext where
  title : Value
  /-- The declarations of the targets. -/
  targets : String
  suite : Suite
  runner : Runner
  env : Fields
  options : Options
  projectDirectory : Value
  outputDirectory : Value
  /-- The ids of the commands that are followed by a wait. -/
  interactiveIds : List String
  /-- The enabled groups. -/
  body : String

/-- The templates of everything above a command. -/
structure Composer where
  /-- The declaration of a target. -/
  query : Target → Except TemplateFault String
  /-- A test with a title around its commands. -/
  test : Value → String → Except TemplateFault String
  /-- A group with a title around its tests. -/
  group : Value → String → Except TemplateFault String
  /-- The whole suite. -/
  suite : SuiteContext → Except TemplateFault String

end SuiteCompiler
