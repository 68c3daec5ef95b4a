/-
  SuiteCompiler/Jest/Composer.lean
  ================================
  The Jest test file around the commands: declarations, tests, groups, and the
  header that sets up a browser session.
-/
import SuiteCompiler.Jest.Renderers
import SuiteCompiler.Template.Schema

namespace SuiteCompiler.Jest

/-- The time that a test may take, in milliseconds. -/
def testTimeout : Nat := 50000

/-- The declaration of a target as a function that finds its element. -/
def query (t : Target) : Except TemplateFault String := do
  let name ← identifier t.name
  return s!"const {name} = async () => await bs.query( {t.selector.script}, {t.name.script} );"

/-- A test. -/
def test (title : Value) (body : String) : String :=
  s!"    test( {title.script}, async () => \x7b\n{body}\n    \x7d);\n"

/-- A group of tests. -/
def group (title : Value) (body : String) : String :=
  s!"  describe( {title.script}, async () => \x7b\n{body}\n  \x7d);\n"

/-- What the session is set up with. -/
def setup (o : Options) : Value :=
  .object [("incognito", o.incognito), ("ignoreHTTPSErrors", o.ignoreHttpsErrors)]

/-- The test file of a suite. -/
def suite (ctx : SuiteContext) : String :=
  let env := (Value.object ctx.env).script
  let options := (Value.object ctx.options.toFields).script
  let ids := (Value.list (ctx.interactiveIds.map .text)).script
  let setup := (setup ctx.options).script
  s!"/**\n * {ctx.title.display}\n" ++
  s!" * Generated by suitegen for the {ctx.runner.name} runner.\n */\n" ++
  "const BrowserSession = require( \"./lib/BrowserSession\" ),\n" ++
  s!"      bs = new BrowserSession( {ctx.outputDirectory.script} );\n\n" ++
  s!"const ENV = {env},\n" ++
  s!"      OPTIONS = {options},\n" ++
  s!"      PROJECT_DIRECTORY = {ctx.projectDirectory.script},\n" ++
  s!"      INTERACTIVE_IDS = {ids};\n\n" ++
  s!"{ctx.targets}\n\njest.setTimeout( {testTimeout} );\n\n" ++
  s!"describe( {ctx.title.script}, async () => \x7b\n" ++
  s!"  beforeAll(async () => \x7b\n    await bs.setup( {setup} );\n  \x7d);\n\n" ++
  s!"  afterAll(async () => \x7b\n    await bs.teardown();\n  \x7d);\n\n" ++
  s!"{ctx.body}\n\x7d);\n"

/-- The composer of Jest test files. -/
def composer : Composer where
  query := query
  test title body := .ok (test title body)
  group title body := .ok (group title body)
  suite ctx := .ok (suite ctx)

/-- The built-in schema. -/
def schema : Schema where
  composer
  page := pageRenderers
  element := elementRenderers

end SuiteCompiler.Jest
