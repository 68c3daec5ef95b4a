/-
  SuiteCompiler/Number/Decimal.lean
  =================================
  Whole numbers in decimal notation: how they are written, and which texts
  denote one.  A text may have white space around the number, a sign, the decimal
  digits of any script, and single underscores between digits.  More than
  `digitLimit` digits are not read.
-/
import SuiteCompiler.Text.Blank

namespace SuiteCompiler.Number

open SuiteCompiler.Text

/-! ### Writing -/

/-- The decimal digits of a natural number, the highest first and no leading zero. -/
def digits (n : Nat) : List Char := Nat.toDigits 10 n

/-- A whole number in decimal notation. -/
def decimal : Int → List Char
  | .ofNat n => digits n
  | .negSucc n => '-' :: digits (n + 1)

/-! ### Reading -/

/-- The most digits that are read as one number. -/
def digitLimit : Nat := 4300

/-- The zero of each set of decimal digits of Unicode 14; the digits one to nine follow it. -/
def zeroDigits : List Nat :=
  [0x30, 0x660, 0x6F0, 0x7C0, 0x966, 0x9E6, 0xA66, 0xAE6, 0xB66, 0xBE6,
   0xC66, 0xCE6, 0xD66, 0xDE6, 0xE50, 0xED0, 0xF20, 0x1040, 0x1090, 0x17E0,
   0x1810, 0x1946, 0x19D0, 0x1A80, 0x1A90, 0x1B50, 0x1BB0, 0x1C40, 0x1C50, 0xA620,
   0xA8D0, 0xA900, 0xA9D0, 0xA9F0, 0xAA50, 0xABF0, 0xFF10, 0x104A0, 0x10D30, 0x11066,
   0x110F0, 0x11136, 0x111D0, 0x112F0, 0x11450, 0x114D0, 0x11650, 0x116C0, 0x11730, 0x118E0,
   0x11950, 0x11C50, 0x11D50, 0x11DA0, 0x16A60, 0x16AC0, 0x16B50, 0x1D7CE, 0x1D7D8, 0x1D7E2,
   0x1D7EC, 0x1D7F6, 0x1E140, 0x1E2F0, 0x1E950, 0x1FBF0]

/-- The value of a decimal digit of any script. -/
def digitValue? (c : Char) : Option Nat :=
  (zeroDigits.find? (fun z => z ≤ c.toNat && c.toNat < z + 10)).map (c.toNat - ·)

/-- The number whose digits have the given values, the highest first. -/
def ofDigitValues (values : List Nat) : Nat := values.foldl (fun n d => n * 10 + d) 0

/-- White space around a number.  The information separators, blank elsewhere, are not. -/
def isNumberBlank (c : Char) : Bool := isBlank c && !(0x1C ≤ c.toNat && c.toNat ≤ 0x1F)

/-- Why a text denotes no whole number. -/
inductive DecimalFault where
  /-- The text is not a number. -/
  | notANumber
  /-- The number has this many digits, more than `digitLimit`. -/
  | tooManyDigits (count : Nat)
  deriving DecidableEq, Repr

/-- Whether every underscore of a run of digits and underscores stands between two digits, and
there is a digit; `afterDigit` tells whether a digit precedes the run. -/
def isSeparated (afterDigit : Bool) : List Char → Bool
  | [] => afterDigit
  | c :: cs => if c = '_' then afterDigit && isSeparated false cs else isSeparated true cs

/-- The natural number that a text denotes.  Too many digits are reported even if something that
is no part of a number follows them. -/
def readNatural (cs : List Char) : Except DecimalFault Nat :=
  let inNumber := fun c => c = '_' || (digitValue? c).isSome
  let run := cs.takeWhile inNumber
  let values := run.filterMap digitValue?
  if !isSeparated false run then .error .notANumber
  else if digitLimit < values.length then .error (.tooManyDigits values.length)
  else if cs.dropWhile inNumber = [] then .ok (ofDigitValues values)
  else .error .notANumber

/-- The whole number that a text denotes. -/
def readDecimal (s : String) : Except DecimalFault Int :=
  let cs := s.toList.dropWhile isNumberBlank
  match cs with
  | '-' :: rest => (readNatural (dropEndWhile isNumberBlank rest)).map fun n => -(n : Int)
  | '+' :: rest => (readNatural (dropEndWhile isNumberBlank rest)).map fun n => (n : Int)
  | rest => (readNatural (dropEndWhile isNumberBlank rest)).map fun n => (n : Int)

/-- The text that reports a number of more than `digitLimit` digits. -/
def tooManyDigitsText (count : Nat) : String :=
  s!"Exceeds the limit ({digitLimit} digits) for integer string conversion: " ++
    s!"value has {count} digits; use sys.set_int_max_str_digits() to increase the limit"

end SuiteCompiler.Number
