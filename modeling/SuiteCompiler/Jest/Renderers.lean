/-
  SuiteCompiler/Jest/Renderers.lean
  =================================
  The built-in methods of a page and of an element, as calls on a browser session
  inside a Jest test.  Every target is declared as a function without arguments,
  so an element is reached by calling the name of its target.
-/
import SuiteCompiler.Template.Basic
import SuiteCompiler.Document.Writer
import SuiteCompiler.Text.Identifier

namespace SuiteCompiler.Jest

/-! ### Parts -/

/-- The white space before a statement of a test. -/
def indent : String := "      "

/-- The time that a navigation may take, in milliseconds. -/
def navigationTimeout : Int := 30000

/-- The name of a target, if it can stand as an identifier. -/
def identifier : Value → Except TemplateFault String
  | .text name => if Text.isIdentifier name then .ok name else .error (.notAnIdentifier name)
  | v => .error (.nameNotText v.kind)

/-- The element of a target. -/
def element (ctx : RenderContext) : Except TemplateFault String := do
  let name ← identifier ctx.target
  return s!"( await {name}() )"

/-- The whole number that a value stands for: a truth value counts as one or zero, the places
after the point are cut off, and a text is read as a decimal number. -/
def toInteger : Value → Except IntegerFault Int
  | .bool b => .ok (if b then 1 else 0)
  | .int n => .ok n
  | .float .nan => .error .undefined
  | .float (.infinite _) => .error .infinite
  | .float (.finite negative significand exponent) =>
    .ok (Number.Double.truncate negative significand exponent)
  | .text s =>
    match Number.readDecimal s with
    | .ok n => .ok n
    | .error .notANumber => .error (.notANumber s)
    | .error (.tooManyDigits count) => .error (.tooManyDigits count)
  | v => .error (.wrongKind v.kind)

/-- A parameter that must be given. -/
def param (ctx : RenderContext) (name : String) : Except TemplateFault Value :=
  match ctx.params.get? name with
  | some v => .ok v
  | none => .error (.missingParameter name)

/-- A parameter that must be a whole number.  An infinite number is reported as what it is, and
any other value by the name of the parameter. -/
def integerParam (ctx : RenderContext) (name : String) : Except TemplateFault Int := do
  let value ← param ctx name
  match toInteger value with
  | .ok n => .ok n
  | .error .infinite => .error (.integer .infinite)
  | .error _ => .error (.notAnInteger name value)

/-- The value that the assertion of a command gives. -/
def assertedValue (ctx : RenderContext) : Except TemplateFault Value :=
  match ctx.assertion.bind (·.get? "value") with
  | some v => .ok v
  | none => .error (.missingAssertion ctx.method)

/-- A whole number as it stands in the source. -/
def number (n : Int) : String := String.ofList (Number.decimal n)

/-! ### Methods of the page -/

/-- Goes to an address; the time that it may take has a default. -/
def goto : Renderer := fun ctx => do
  let timeout := (ctx.params.get? "timeout").getD (.int navigationTimeout)
  let url := (← param ctx "url").script
  match toInteger timeout with
  | .ok n => return s!"{indent}await bs.page.goto( {url}, \x7b timeout: {number n} \x7d );"
  | .error fault => throw (.integer fault)

/-- Sets the size of the visible part of the page. -/
def setViewport : Renderer := fun ctx => do
  let width := number (← integerParam ctx "width")
  let height := number (← integerParam ctx "height")
  return s!"{indent}await bs.page.setViewport(\x7b width: {width}, height: {height} \x7d);"

/-- Takes a screenshot, named by the command unless it has a name. -/
def screenshot : Renderer := fun ctx =>
  let name := ((ctx.params.get "name").orElse ctx.commandId).script
  return s!"{indent}await bs.screenshot( {name} );"

/-- Waits for a time. -/
def waitForTimeout : Renderer := fun ctx => do
  let value := number (← integerParam ctx "value")
  return s!"{indent}await bs.page.waitForTimeout( {value} );"

/-- Loads the page again. -/
def reload : Renderer := fun _ => return s!"{indent}await bs.page.reload();"

/-- Compares the title of the page with the asserted value. -/
def assertTitle : Renderer := fun ctx => do
  let value := (← assertedValue ctx).script
  return s!"{indent}expect( await bs.page.title() ).toBe( {value} );"

/-- The methods of the page. -/
def pageRenderers : List (String × Renderer) :=
  [("goto", goto), ("setViewport", setViewport), ("screenshot", screenshot),
   ("waitForTimeout", waitForTimeout), ("reload", reload), ("assertTitle", assertTitle)]

/-! ### Methods of an element -/

/-- Clicks on an element. -/
def click : Renderer := fun ctx => do
  let element ← element ctx
  return s!"{indent}await {element}.click();"

/-- Types a text into an element. -/
def typeText : Renderer := fun ctx => do
  let element ← element ctx
  let value := (← param ctx "value").script
  return s!"{indent}await {element}.type( {value} );"

/-- Gives an element the focus. -/
def focus : Renderer := fun ctx => do
  let element ← element ctx
  return s!"{indent}await {element}.focus();"

/-- Moves the pointer over an element. -/
def hover : Renderer := fun ctx => do
  let element ← element ctx
  return s!"{indent}await {element}.hover();"

/-- Asserts that an element is visible; a comment names the command. -/
def assertVisible : Renderer := fun ctx => do
  let element ← element ctx
  let position := s!"{ctx.testId.display}:{ctx.commandId.display}"
  return s!"{indent}expect( await bs.isVisible( {element} ) ).toBe( true ); // {position}"

/-- Looks for the asserted value in the text of an element. -/
def assertText : Renderer := fun ctx => do
  let value := (← assertedValue ctx).script
  let element ← element ctx
  return s!"{indent}expect( await bs.getText( {element} ) ).toContain( {value} );"

/-- The methods of an element. -/
def elementRenderers : List (String × Renderer) :=
  [("click", click), ("type", typeText), ("focus", focus), ("hover", hover),
   ("assertVisible", assertVisible), ("assertText", assertText)]

end SuiteCompiler.Jest
