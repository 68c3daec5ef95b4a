/-
  SuiteCompiler/Document/Literal.lean
  ===================================
  Values inside messages and names.  A text stands for itself when it is displayed
  and in quotes when it is shown as a literal; inside lists and objects every text
  is in quotes.
-/
import SuiteCompiler.Document.Value
import SuiteCompiler.Number.Shortest
import SuiteCompiler.Text.Printable

namespace SuiteCompiler

namespace Value

/-- A floating-point number as a literal. -/
def floatLiteral : Number.Double → List Char
  | .nan => "nan".toList
  | .infinite false => "inf".toList
  | .infinite true => "-inf".toList
  | .finite negative significand exponent => Number.shortest negative significand exponent

mutual

/-- The characters of a value as a literal. -/
def literalChars : Value → List Char
  | .null => "None".toList
  | .bool true => "True".toList
  | .bool false => "False".toList
  | .int n => Number.decimal n
  | .float x => floatLiteral x
  | .text s => Text.quoted s
  | .list [] => "[]".toList
  | .list (item :: items) => '[' :: (literalChars item ++ literalItems items ++ [']'])
  | .object [] => ['\x7b', '\x7d']
  | .object ((name, value) :: fields) =>
    '\x7b' :: (Text.quoted name ++ [':', ' '] ++ literalChars value ++ literalFields fields ++
      ['\x7d'])

/-- The items after the first one, each after a comma. -/
def literalItems : List Value → List Char
  | [] => []
  | item :: items => ',' :: ' ' :: (literalChars item ++ literalItems items)

/-- The fields after the first one, each after a comma. -/
def literalFields : List (String × Value) → List Char
  | [] => []
  | (name, value) :: fields =>
    ',' :: ' ' :: (Text.quoted name ++ [':', ' '] ++ literalChars value ++ literalFields fields)

end

/-- A value as a literal, with texts in quotes. -/
def literal (v : Value) : String := String.ofList v.literalChars

/-- A value as a message shows it: a text stands for itself. -/
def display : Value → String
  | .text s => s
  | v => v.literal

end Value

end SuiteCompiler
