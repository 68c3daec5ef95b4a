/-
  SuiteCompiler/Console/Color.lean
  ================================
  How a style names a colour: by one of the known names, by six hexadecimal digits
  after a number sign, by its number, `color(200)`, or by its red, green and blue
  parts, `rgb(0,128,255)`.  A colour is told apart from others by its spelling, in
  lower case.
-/
import SuiteCompiler.Console.ColorTable
import SuiteCompiler.Number.Decimal
import SuiteCompiler.Text.Letters
import SuiteCompiler.Text.Lines

namespace SuiteCompiler.Console

/-- Why a text denotes no style. -/
inductive StyleFault where
  /-- A word is out of place. -/
  | malformed
  /-- One of the three parts of a colour is no number. -/
  | notANumber
  deriving DecidableEq, Repr

/-- A colour, by its spelling. -/
structure Color where
  name : String
  deriving DecidableEq, Repr

namespace Color

/-- The largest number of a colour, and of a part of one. -/
def limit : Nat := 255

/-- The text between an opening word and the closing parenthesis. -/
def argument? (opening : List Char) (cs : List Char) : Option (List Char) :=
  if opening.isPrefixOf cs && cs.getLast? == some ')' then
    some (cs.drop opening.length).dropLast
  else none

/-- Six hexadecimal digits after a number sign, the letters in lower case. -/
def isHex : List Char → Bool
  | '#' :: digits =>
    digits.length == 6 && digits.all fun c => c.isDigit || ('a' ≤ c && c ≤ 'f')
  | _ => false

/-- The number of a colour: one to three digits. -/
def isNumber (digits : List Char) : Bool :=
  digits.all Char.isDigit && 1 ≤ digits.length && digits.length ≤ 3 &&
    Number.ofDigitValues (digits.filterMap Number.digitValue?) ≤ limit

/-- The red, green and blue parts of a colour, which commas separate.  All three are read before
any of them is found too large. -/
def checkParts (parts : List Char) : Except StyleFault Unit :=
  if !parts.isEmpty && parts.all fun c => c = ',' || (Number.digitValue? c).isSome then
    match Text.splitAt ',' parts with
    | [red, green, blue] =>
      match Number.readNatural red, Number.readNatural green, Number.readNatural blue with
      | .ok red, .ok green, .ok blue =>
        if red ≤ limit && green ≤ limit && blue ≤ limit then .ok () else .error .malformed
      | _, _, _ => .error .notANumber
    | _ => .error .malformed
  else .error .malformed

/-- The colour that a word of a style names. -/
def parse (word : String) : Except StyleFault Color :=
  let name := Text.lower word
  let cs := name.toList
  if colorNames.contains name || isHex cs then .ok ⟨name⟩
  else
    match argument? "color(".toList cs with
    | some digits => if isNumber digits then .ok ⟨name⟩ else .error .malformed
    | none =>
      match argument? "rgb(".toList cs with
      | some parts => (checkParts parts).map fun _ => ⟨name⟩
      | none => .error .malformed

end Color

end SuiteCompiler.Console
