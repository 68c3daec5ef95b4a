/-
  SuiteCompiler/Document/Reader.lean
  ==================================
  Reading JSON text.  Beside standard JSON the reader takes `NaN`, `Infinity` and
  `-Infinity`.  A number with a point or an exponent is a floating-point number,
  any other a whole one.  If a name is given more than once, its first place and
  its last value stay.

  Every function takes the text that is left and returns what is left after it.
  A fault keeps the text from the place that it reports, so the position is the
  length of the whole text less the length of that part.
-/
import SuiteCompiler.Document.Value
import SuiteCompiler.Number.Decimal

namespace SuiteCompiler

/-- What is wrong with a JSON text. -/
inductive JsonFault where
  | expectedValue
  | expectedName
  | expectedColon
  | expectedComma
  | extraData
  | unterminatedText
  | controlCharacter
  | invalidEscape
  | invalidUnicodeEscape
  | byteOrderMark
  deriving DecidableEq, Repr

/-- The text that reports a fault. -/
def JsonFault.message : JsonFault → String
  | .expectedValue => "Expecting value"
  | .expectedName => "Expecting property name enclosed in double quotes"
  | .expectedColon => "Expecting ':' delimiter"
  | .expectedComma => "Expecting ',' delimiter"
  | .extraData => "Extra data"
  | .unterminatedText => "Unterminated string starting at"
  | .controlCharacter => "Invalid control character at"
  | .invalidEscape => "Invalid \\escape"
  | .invalidUnicodeEscape => "Invalid \\uXXXX escape"
  | .byteOrderMark => "Unexpected UTF-8 BOM (decode using utf-8-sig)"

namespace Json

/-- Why reading stopped. -/
inductive Stop where
  /-- A fault at the place where `rest` begins. -/
  | malformed (fault : JsonFault) (rest : List Char)
  /-- A whole number with more digits than are read. -/
  | tooManyDigits (count : Nat)
  deriving DecidableEq, Repr

/-- What reading gives: a result and the text that is left, or where it stopped. -/
abbrev Reading (α : Type) := Except Stop (α × List Char)

/-- White space between the parts of a JSON text. -/
def isSpace (c : Char) : Bool := c = ' ' || c = '\t' || c = '\n' || c = '\r'

/-- The text without the white space before it. -/
def skipSpace (cs : List Char) : List Char := cs.dropWhile isSpace

/-! ### Texts -/

/-- The value of a hexadecimal digit. -/
def hexValue? (c : Char) : Option Nat :=
  if '0' ≤ c && c ≤ '9' then some (c.toNat - 48)
  else if 'a' ≤ c && c ≤ 'f' then some (c.toNat - 87)
  else if 'A' ≤ c && c ≤ 'F' then some (c.toNat - 55)
  else none

/-- The value of four hexadecimal digits. -/
def hexUnit? (a b c d : Char) : Option Nat := do
  let a ← hexValue? a
  let b ← hexValue? b
  let c ← hexValue? c
  let d ← hexValue? d
  return ((a * 16 + b) * 16 + c) * 16 + d

/-- The first unit of a pair that stands for one character. -/
def isLeadingUnit (n : Nat) : Bool := 0xD800 ≤ n && n ≤ 0xDBFF

/-- The second unit of a pair that stands for one character. -/
def isTrailingUnit (n : Nat) : Bool := 0xDC00 ≤ n && n ≤ 0xDFFF

/-- What is put in the place of half of a pair, which is no character.  It has an escape in literals
and belongs to no name, as a half would; which half it was, or whether the text had U+FFFF itself,
is not kept. -/
def halfChar : Char := '\uffff'

/-- The character of a unit.  What depends on the halves of a text, above all whether it can be
encoded, is told of documents without halves alone (`hasHalves`). -/
def unitChar (n : Nat) : Char :=
  if isLeadingUnit n || isTrailingUnit n then halfChar else Char.ofNat n

/-- The character of a pair of units. -/
def pairChar (leading trailing : Nat) : Char :=
  Char.ofNat (0x10000 + (leading - 0xD800) * 0x400 + (trailing - 0xDC00))

/-- The units that the characters of a JSON text are escapes for, none for any other. -/
def escapedUnits : List Char → List (Option Nat)
  | '\\' :: 'u' :: a :: b :: c :: d :: rest => hexUnit? a b c d :: escapedUnits rest
  | '\\' :: _ :: rest => none :: escapedUnits rest
  | _ :: rest => none :: escapedUnits rest
  | [] => []

/-- Whether there is half of a pair among units without the other half beside it. -/
def hasHalf : List (Option Nat) → Bool
  | some m :: some n :: rest =>
    if isLeadingUnit m && isTrailingUnit n then hasHalf rest
    else isLeadingUnit m || isTrailingUnit m || hasHalf (some n :: rest)
  | some m :: rest => isLeadingUnit m || isTrailingUnit m || hasHalf rest
  | none :: rest => hasHalf rest
  | [] => false

/-- Whether a JSON text has an escape for half of a pair without the other half. -/
def hasHalves (cs : List Char) : Bool := hasHalf (escapedUnits cs)

/-- The character that a backslash and a letter stand for. -/
def shortEscape? (c : Char) : Option Char :=
  match c with
  | '"' => some '"'
  | '\\' => some '\\'
  | '/' => some '/'
  | 'b' => some '\x08'
  | 'f' => some '\x0c'
  | 'n' => some '\n'
  | 'r' => some '\r'
  | 't' => some '\t'
  | _ => none

/-- The character that an escape stands for whose letter `u` is followed by `cs`, and what is
left.  Four hexadecimal digits and at least one character after them are needed; `atLetter` is
the text from the letter.  A leading unit takes a trailing one with it if that follows as an
escape and does not end the text. -/
def readUnicodeEscape (atLetter : List Char) : List Char → Reading Char
  | a :: b :: c :: d :: rest =>
    match hexUnit? a b c d with
    | none => .error (.malformed .invalidUnicodeEscape atLetter)
    | some n =>
      if rest.isEmpty then .error (.malformed .invalidUnicodeEscape atLetter)
      else if isLeadingUnit n then
        match rest with
        | '\\' :: 'u' :: e :: f :: g :: h :: x :: more =>
          match hexUnit? e f g h with
          | none => .error (.malformed .invalidUnicodeEscape rest.tail)
          | some m =>
            if isTrailingUnit m then .ok (pairChar n m, x :: more) else .ok (unitChar n, rest)
        | _ => .ok (unitChar n, rest)
      else .ok (unitChar n, rest)
  | _ => .error (.malformed .invalidUnicodeEscape atLetter)

/-- One character of a text between quotes, from a text that begins neither with a quote nor
with the end; `opening` is the text from the opening quote. -/
def readChar (opening : List Char) : List Char → Reading Char
  | [] => .error (.malformed .unterminatedText opening)
  | '\\' :: [] => .error (.malformed .unterminatedText opening)
  | '\\' :: 'u' :: rest => readUnicodeEscape ('u' :: rest) rest
  | '\\' :: c :: rest =>
    match shortEscape? c with
    | some e => .ok (e, rest)
    | none => .error (.malformed .invalidEscape ('\\' :: c :: rest))
  | c :: rest =>
    if c.toNat < 0x20 then .error (.malformed .controlCharacter (c :: rest)) else .ok (c, rest)

/-- The characters of a text up to its closing quote.  Every step takes a character, so the
length of the text bounds their number. -/
def readCharsFrom (opening : List Char) : Nat → List Char → Reading (List Char)
  | _, '"' :: rest => .ok ([], rest)
  | 0, _ => .error (.malformed .unterminatedText opening)
  | fuel + 1, cs =>
    match readChar opening cs with
    | .error stop => .error stop
    | .ok (c, rest) => (readCharsFrom opening fuel rest).map fun (cs, rest) => (c :: cs, rest)

/-- A text whose opening quote is followed by `cs`. -/
def readText (cs : List Char) : Reading String :=
  (readCharsFrom ('"' :: cs) cs.length cs).map fun (chars, rest) => (String.ofList chars, rest)

/-! ### Numbers -/

/-- A decimal digit of JSON. -/
def isDigit (c : Char) : Bool := '0' ≤ c && c ≤ '9'

/-- The values of digits. -/
def digitValues (cs : List Char) : List Nat := cs.map (·.toNat - 48)

/-- The digits before the point: a single zero, or digits of which the first is not zero. -/
def readWhole : List Char → Option (List Char × List Char)
  | [] => none
  | c :: rest =>
    if c = '0' then some (['0'], rest)
    else if isDigit c then some (c :: rest.takeWhile isDigit, rest.dropWhile isDigit)
    else none

/-- A point and the digits after it, if there is at least one. -/
def readFraction : List Char → Option (List Char × List Char)
  | '.' :: rest =>
    if (rest.takeWhile isDigit).isEmpty then none
    else some (rest.takeWhile isDigit, rest.dropWhile isDigit)
  | _ => none

/-- An exponent, if its letter and sign are followed by a digit. -/
def readExponent : List Char → Option (Int × List Char)
  | [] => none
  | letter :: rest =>
    if letter = 'e' || letter = 'E' then
      let (negative, rest) :=
        match rest with
        | '-' :: more => (true, more)
        | '+' :: more => (false, more)
        | more => (false, more)
      let ds := rest.takeWhile isDigit
      if ds.isEmpty then none
      else
        let magnitude : Int := Number.ofDigitValues (digitValues ds)
        some (if negative then -magnitude else magnitude, rest.dropWhile isDigit)
    else none

/-- A number without its sign. -/
def readUnsigned (negative : Bool) (cs : List Char) : Option (Except Nat Value × List Char) :=
  match readWhole cs with
  | none => none
  | some (whole, rest) =>
    let fraction := readFraction rest
    let rest := (fraction.map (·.2)).getD rest
    let exponent := readExponent rest
    let rest := (exponent.map (·.2)).getD rest
    if fraction.isNone && exponent.isNone then
      if Number.digitLimit < whole.length then some (.error whole.length, rest)
      else
        let n : Int := Number.ofDigitValues (digitValues whole)
        some (.ok (.int (if negative then -n else n)), rest)
    else
      let places := (fraction.map (·.1)).getD []
      let coefficient := Number.ofDigitValues (digitValues (whole ++ places))
      let place := (exponent.map (·.1)).getD 0 - (places.length : Int)
      some (.ok (.float (Number.Double.ofDecimal negative coefficient place)), rest)

/-- A number. -/
def readNumber (cs : List Char) : Reading Value :=
  let number :=
    match cs with
    | '-' :: rest => readUnsigned true rest
    | rest => readUnsigned false rest
  match number with
  | none => .error (.malformed .expectedValue cs)
  | some (.error count, _) => .error (.tooManyDigits count)
  | some (.ok v, rest) => .ok (v, rest)

/-! ### Values -/

/-- The words that are values. -/
def words : List (List Char × Value) :=
  [("null".toList, .null), ("true".toList, .bool true), ("false".toList, .bool false),
   ("NaN".toList, .float .nan), ("Infinity".toList, .float (.infinite false)),
   ("-Infinity".toList, .float (.infinite true))]

/-- A word or a number. -/
def readScalar (cs : List Char) : Reading Value :=
  match words.findSome? (fun (word, v) => (word.isPrefixOf? cs).map fun rest => (v, rest)) with
  | some found => .ok found
  | none => readNumber cs

mutual

/-- A value at the very start of the text.  A call either takes a character or is the call for an
item of a list, which takes one at once, so twice the length of the text, and one more, bounds
their number. -/
def readValue : Nat → List Char → Reading Value
  | 0, cs => .error (.malformed .expectedValue cs)
  | fuel + 1, cs =>
    match cs with
    | '"' :: rest => (readText rest).map fun (s, rest) => (.text s, rest)
    | '[' :: rest =>
      match skipSpace rest with
      | ']' :: rest => .ok (.list [], rest)
      | rest => (readItems fuel rest).map fun (items, rest) => (.list items, rest)
    | '\x7b' :: rest =>
      match skipSpace rest with
      | '\x7d' :: rest => .ok (.object [], rest)
      | rest =>
        (readFields fuel rest).map fun (pairs, rest) => (.object (Fields.ofPairs pairs), rest)
    | cs => readScalar cs

/-- The items of a list up to its closing bracket. -/
def readItems : Nat → List Char → Reading (List Value)
  | 0, cs => .error (.malformed .expectedValue cs)
  | fuel + 1, cs =>
    match readValue fuel cs with
    | .error stop => .error stop
    | .ok (item, rest) =>
      match skipSpace rest with
      | ']' :: rest => .ok ([item], rest)
      | ',' :: rest =>
        (readItems fuel (skipSpace rest)).map fun (items, rest) => (item :: items, rest)
      | rest => .error (.malformed .expectedComma rest)

/-- The fields of an object up to its closing brace, repeated names included. -/
def readFields : Nat → List Char → Reading (List (String × Value))
  | 0, cs => .error (.malformed .expectedName cs)
  | fuel + 1, cs =>
    match cs with
    | '"' :: rest =>
      match readText rest with
      | .error stop => .error stop
      | .ok (name, rest) =>
        match skipSpace rest with
        | ':' :: rest =>
          match readValue fuel (skipSpace rest) with
          | .error stop => .error stop
          | .ok (value, rest) =>
            match skipSpace rest with
            | '\x7d' :: rest => .ok ([(name, value)], rest)
            | ',' :: rest =>
              (readFields fuel (skipSpace rest)).map fun (fields, rest) =>
                ((name, value) :: fields, rest)
            | rest => .error (.malformed .expectedComma rest)
        | rest => .error (.malformed .expectedColon rest)
    | cs => .error (.malformed .expectedName cs)

end

/-- The value of a whole text. -/
def readDocument (cs : List Char) : Except Stop Value :=
  if cs.head? = some '\ufeff' then .error (.malformed .byteOrderMark cs)
  else
    match readValue (2 * cs.length + 1) (skipSpace cs) with
    | .error stop => .error stop
    | .ok (v, rest) =>
      if (skipSpace rest).isEmpty then .ok v
      else .error (.malformed .extraData (skipSpace rest))

end Json

/-- Why a text is not read as JSON. -/
inductive JsonError where
  /-- A fault, `position` characters after the start of the text, in a line and a column that are
  counted from one. -/
  | malformed (fault : JsonFault) (line column position : Nat)
  /-- A whole number with more digits than are read. -/
  | tooManyDigits (count : Nat)
  deriving DecidableEq, Repr

namespace JsonError

/-- The fault at a position of a text. -/
def located (fault : JsonFault) (text : List Char) (position : Nat) : JsonError :=
  let before := text.take position
  .malformed fault (before.count '\n' + 1) ((before.reverse.takeWhile (· ≠ '\n')).length + 1)
    position

/-- The text that reports the error. -/
def message : JsonError → String
  | .malformed fault line column position =>
    s!"{fault.message}: line {line} column {column} (char {position})"
  | .tooManyDigits count => Number.tooManyDigitsText count

end JsonError

namespace Value

/-- The value that a JSON text denotes. -/
def parseChars (cs : List Char) : Except JsonError Value :=
  match Json.readDocument cs with
  | .ok v => .ok v
  | .error (.malformed fault rest) => .error (JsonError.located fault cs (cs.length - rest.length))
  | .error (.tooManyDigits count) => .error (.tooManyDigits count)

/-- The value that a JSON text denotes. -/
def parse (s : String) : Except JsonError Value := parseChars s.toList

end Value

end SuiteCompiler
