/-
  SuiteCompiler/Console/Handler.lean
  ==================================
  Handlers of events.  A tag whose name starts with an at sign sets one: after the
  equals sign stands what it calls, a name with arguments in parentheses, or else
  its arguments alone.  The arguments must be a literal.
-/
import SuiteCompiler.Console.Handler.Literal
import SuiteCompiler.Text.Word

namespace SuiteCompiler.Console.Handler

/-- The arguments of what a handler calls.  A name alone is called without any; what is not a
name with parentheses on the same line is all arguments. -/
def arguments (call : List Char) : List Char :=
  let call := Text.trimWhile Text.isBlank call
  match call.dropWhile fun c => Text.isWordPart c || c = '.' with
  | [] => ['(', ')']
  | '(' :: rest =>
    if rest.getLast? = some ')' && !rest.contains '\n' then '(' :: rest else call
  | _ => call

/-- Whether a handler can be set to call something; it can be set to call nothing. -/
def accepts (call : List Char) : Bool := call.isEmpty || isLiteral (arguments call)

end SuiteCompiler.Console.Handler
