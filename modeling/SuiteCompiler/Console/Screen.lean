/-
  SuiteCompiler/Console/Screen.lean
  =================================
  Screens that messages are shown on.  A screen has a width, or none.  A text with a line
  that takes more columns is broken into more lines, in a way that is the screen's own; any
  other text stays as it is.  Screens show no colours and no other styles.
-/
import SuiteCompiler.Console.Columns
import SuiteCompiler.Text.Lines

namespace SuiteCompiler.Console

/-- The number of columns that a line takes. -/
def lineColumns (line : List Char) : Nat := line.foldl (fun n c => n + columns c) 0

/-- Whether no line of a text takes more columns than there are, if there is a limit. -/
def fits (width : Option Nat) (text : String) : Bool :=
  width.all fun limit => (Text.splitAt '\n' text.toList).all (lineColumns · ≤ limit)

/-- A screen for messages. -/
structure Screen where
  /-- The number of columns, none if lines never end. -/
  width : Option Nat
  /-- A text with its long lines broken. -/
  wrap : String → String
  wrap_of_fits : ∀ text, fits width text = true → wrap text = text

/-- The screen on which lines never end. -/
def Screen.endless : Screen := ⟨none, id, fun _ _ => rfl⟩

end SuiteCompiler.Console
