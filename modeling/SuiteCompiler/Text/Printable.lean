/-
  SuiteCompiler/Text/Printable.lean
  =================================
  Texts in quotes, as literals inside messages show them.  Single quotes are
  used unless the text holds one and no double quote; the quote in use, the
  backslash and every unprintable character are escaped.
-/
import SuiteCompiler.Text.PrintableTable

namespace SuiteCompiler.Text

/-- A character that quoted text shows as it is. -/
def isPrintable (c : Char) : Bool := !inRanges unprintableRanges c.toNat

/-- The last `width` hexadecimal digits of a number, in lower case. -/
def hexDigits : Nat → Nat → List Char
  | 0, _ => []
  | width + 1, n => hexDigits width (n / 16) ++ [Nat.digitChar (n % 16)]

/-- A character between quotes `quote`. -/
def quoteChar (quote c : Char) : List Char :=
  if c = quote || c = '\\' then ['\\', c]
  else if c = '\n' then ['\\', 'n']
  else if c = '\r' then ['\\', 'r']
  else if c = '\t' then ['\\', 't']
  else if isPrintable c then [c]
  else if c.toNat < 0x100 then '\\' :: 'x' :: hexDigits 2 c.toNat
  else if c.toNat < 0x10000 then '\\' :: 'u' :: hexDigits 4 c.toNat
  else '\\' :: 'U' :: hexDigits 8 c.toNat

/-- The quote a text is written with. -/
def quoteFor (cs : List Char) : Char :=
  if cs.contains '\'' && !cs.contains '"' then '"' else '\''

/-- A text in quotes. -/
def quoted (s : String) : List Char :=
  let quote := quoteFor s.toList
  quote :: (s.toList.flatMap (quoteChar quote) ++ [quote])

end SuiteCompiler.Text
