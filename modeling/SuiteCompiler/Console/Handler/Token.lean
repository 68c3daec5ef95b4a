/-
  SuiteCompiler/Console/Handler/Token.lean
  ========================================
  The tokens of the literals that a handler can be given: numbers, quoted texts and
  bytes, a few names, brackets and signs.  A token keeps what decides whether the
  literal that it is part of denotes a value; of a text nothing does.

  Lines matter outside brackets only: there a literal stands on one line, lines
  with nothing but a comment apart, and that line is not indented.
-/
import SuiteCompiler.Number.Decimal
import SuiteCompiler.Text.CharacterName
import SuiteCompiler.Text.Lines

namespace SuiteCompiler.Console.Handler

/-- A number without a sign. -/
inductive NumberToken where
  | whole (value : Nat)
  | real
  | imaginary
  deriving DecidableEq, Repr

/-- A token of a literal. -/
inductive Token where
  | number (n : NumberToken)
  | text
  | bytes
  /-- A name or a sign that is a value. -/
  | constant
  /-- The name that makes an empty set when it is called. -/
  | setName
  | leftParen
  | rightParen
  | leftBrace
  | rightBrace
  | comma
  | colon
  | plus
  | minus
  deriving DecidableEq, Repr

/-- A token, and what follows it; none if there is no token. -/
abbrev Reading := Option (Token × List Char)

/-- A character that may stand in a name. -/
def isNamePart (c : Char) : Bool := c.isAlphanum || c = '_' || 0x80 ≤ c.toNat

/-! ### Numbers -/

/-- A run of digits with single underscores before them, without the underscores, and what
follows it. -/
def digitRun (isDigit : Char → Bool) : List Char → List Char × List Char
  | [] => ([], [])
  | c :: cs =>
    if isDigit c then
      let (digits, rest) := digitRun isDigit cs
      (c :: digits, rest)
    else
      match c, cs with
      | '_', d :: _ => if isDigit d then digitRun isDigit cs else ([], c :: cs)
      | _, _ => ([], c :: cs)

/-- A run of decimal digits that starts with one. -/
def decimalRun (cs : List Char) : List Char × List Char :=
  match cs with
  | [] => ([], [])
  | c :: _ => if c.isDigit then digitRun Char.isDigit cs else ([], cs)

/-- The value of a digit in a base up to sixteen. -/
def digitIn? (base : Nat) (c : Char) : Option Nat :=
  let value :=
    if c.isDigit then some (c.toNat - '0'.toNat)
    else if 'a' ≤ c.toLower && c.toLower ≤ 'f' then some (c.toLower.toNat - 'a'.toNat + 10)
    else none
  value.filter (· < base)

/-- A whole number after its prefix for a base. -/
def readInBase (base : Nat) (cs : List Char) : Reading :=
  let (digits, rest) := digitRun (fun c => (digitIn? base c).isSome) cs
  if digits.isEmpty then none
  else
    let value := (digits.filterMap (digitIn? base)).foldl (fun n d => n * base + d) 0
    some (.number (.whole value), rest)

/-- The exponent at the start of a text, none if it has no digits: whether there is one, and what
follows. -/
def readExponent (cs : List Char) : Option (Bool × List Char) :=
  match cs with
  | [] => some (false, [])
  | e :: rest =>
    if e = 'e' || e = 'E' then
      let afterSign :=
        match rest with
        | '+' :: rest => rest
        | '-' :: rest => rest
        | rest => rest
      let (digits, rest) := decimalRun afterSign
      if digits.isEmpty then none else some (true, rest)
    else some (false, cs)

/-- The whole number that decimal digits denote.  Only zero may start with a zero, and then has
any number of digits. -/
def wholeNumber? (digits : List Char) : Option Nat :=
  if digits.all (· = '0') then some 0
  else if digits.head? = some '0' || Number.digitLimit < digits.length then none
  else some (Number.ofDigitValues (digits.filterMap Number.digitValue?))

/-- A number in decimal notation. -/
def readDecimalNotation (cs : List Char) : Reading := do
  let (digits, rest) := decimalRun cs
  let (hasPoint, rest) :=
    match rest with
    | '.' :: rest => (true, (decimalRun rest).2)
    | rest => (false, rest)
  let (hasExponent, rest) ← readExponent rest
  match rest with
  | 'j' :: rest => return (.number .imaginary, rest)
  | 'J' :: rest => return (.number .imaginary, rest)
  | rest =>
    if hasPoint || hasExponent then return (.number .real, rest)
    else
      let value ← wholeNumber? digits
      return (.number (.whole value), rest)

/-- A number.  What follows it must not be part of a name. -/
def readNumber (cs : List Char) : Reading := do
  let (token, rest) ←
    match cs with
    | '0' :: c :: rest =>
      if c.toLower = 'x' then readInBase 16 rest
      else if c.toLower = 'o' then readInBase 8 rest
      else if c.toLower = 'b' then readInBase 2 rest
      else readDecimalNotation cs
    | cs => readDecimalNotation cs
  if rest.head?.any isNamePart then none else some (token, rest)

/-! ### Quoted texts -/

/-- What stands before the closing quote, backslashes and all, and what follows the quote.  A
backslash keeps the next character from closing the text.  Only after three quotes may the text
have more than one line; then three close it. -/
def readQuoted (quote : Char) (long : Bool) : List Char → Option (List Char × List Char)
  | [] => none
  | c :: rest =>
    if c = '\\' then
      match rest with
      | [] => none
      | d :: rest => (readQuoted quote long rest).map fun (body, rest) => (c :: d :: body, rest)
    else if c = quote && !long then some ([], rest)
    else if c = quote && rest.take 2 == [quote, quote] then some ([], rest.drop 2)
    else if c = '\n' && !long then none
    else (readQuoted quote long rest).map fun (body, rest) => (c :: body, rest)

/-- The number that so many hexadecimal digits at the start of a text denote. -/
def hexNumber? (width : Nat) (cs : List Char) : Option Nat :=
  let values := (cs.take width).filterMap (digitIn? 16)
  if values.length = width then some (values.foldl (fun n d => n * 16 + d) 0) else none

/-- Whether a text starts with the name of a character in braces. -/
def startsWithCharacterName (cs : List Char) : Bool :=
  match cs with
  | '\x7b' :: rest =>
    rest.contains '\x7d' && Text.isCharacterName (rest.takeWhile (· ≠ '\x7d'))
  | _ => false

/-- Whether what follows a backslash and the letter `c` completes an escape.  Bytes have no
escapes for the characters beyond them. -/
def completesEscape (isText : Bool) (c : Char) (rest : List Char) : Bool :=
  if c = 'x' then (hexNumber? 2 rest).isSome
  else if !isText then true
  else if c = 'u' then (hexNumber? 4 rest).isSome
  else if c = 'U' then (hexNumber? 8 rest).any (· ≤ 0x10FFFF)
  else if c = 'N' then startsWithCharacterName rest
  else true

/-- Whether every escape is complete. -/
def escapesComplete (isText : Bool) : List Char → Bool
  | [] => true
  | c :: rest =>
    if c = '\\' then
      match rest with
      | [] => false
      | d :: rest => completesEscape isText d rest && escapesComplete isText rest
    else escapesComplete isText rest

/-- The letters that may stand before a quote, in lower case: whether they make a text, and
whether backslashes have no meaning. -/
def quotePrefixes : List (String × Bool × Bool) :=
  [("", true, false), ("u", true, false), ("r", true, true), ("b", false, false),
   ("br", false, true), ("rb", false, true)]

/-- A quoted text or bytes after the letters before the quote; `cs` starts behind the quote. -/
def readText (letters : List Char) (quote : Char) (cs : List Char) : Reading := do
  let (isText, isRaw) ← quotePrefixes.lookup (String.ofList (letters.map Char.toLower))
  let long := cs.take 2 == [quote, quote]
  let (body, rest) ← readQuoted quote long (if long then cs.drop 2 else cs)
  if !isText && body.any (0x80 ≤ ·.toNat) then none
  else if !isRaw && !escapesComplete isText body then none
  else return (if isText then .text else .bytes, rest)

/-! ### Names and signs -/

/-- Letters that are the letter `s` in another form. -/
def lettersS : List Nat :=
  [0x73, 0x17F, 0x2E2, 0x209B, 0xFF53, 0x1D42C, 0x1D460, 0x1D494, 0x1D4C8, 0x1D4FC, 0x1D530,
   0x1D564, 0x1D598, 0x1D5CC, 0x1D600, 0x1D634, 0x1D668, 0x1D69C]

/-- Letters that are the letter `e` in another form. -/
def lettersE : List Nat :=
  [0x65, 0x1D49, 0x2091, 0x212F, 0x2147, 0xFF45, 0x1D41E, 0x1D452, 0x1D486, 0x1D4EE, 0x1D522,
   0x1D556, 0x1D58A, 0x1D5BE, 0x1D5F2, 0x1D626, 0x1D65A, 0x1D68E]

/-- Letters that are the letter `t` in another form. -/
def lettersT : List Nat :=
  [0x74, 0x1D57, 0x209C, 0xFF54, 0x1D42D, 0x1D461, 0x1D495, 0x1D4C9, 0x1D4FD, 0x1D531, 0x1D565,
   0x1D599, 0x1D5CD, 0x1D601, 0x1D635, 0x1D669, 0x1D69D]

/-- The token that a name is. -/
def nameToken? (name : List Char) : Option Token :=
  if ["None", "True", "False"].contains (String.ofList name) then some .constant
  else
    match name.map Char.toNat with
    | [s, e, t] =>
      if lettersS.contains s && lettersE.contains e && lettersT.contains t then some .setName
      else none
    | _ => none

/-- The token that a sign is. -/
def signToken? (c : Char) : Option Token :=
  match c with
  | '(' => some .leftParen
  | ')' => some .rightParen
  | '\x7b' => some .leftBrace
  | '\x7d' => some .rightBrace
  | ',' => some .comma
  | ':' => some .colon
  | '+' => some .plus
  | '-' => some .minus
  | _ => none

/-- The first token of a text that does not start with white space. -/
def readToken (cs : List Char) : Reading :=
  match cs with
  | [] => none
  | '.' :: '.' :: '.' :: rest => some (.constant, rest)
  | '.' :: rest => if rest.head?.any Char.isDigit then readNumber cs else none
  | c :: rest =>
    if c.isDigit then readNumber cs
    else if isNamePart c || c = '\'' || c = '"' then
      let name := cs.takeWhile isNamePart
      match cs.dropWhile isNamePart with
      | '\'' :: rest => readText name '\'' rest
      | '"' :: rest => readText name '"' rest
      | rest => (nameToken? name).map fun token => (token, rest)
    else (signToken? c).map fun token => (token, rest)

/-! ### Lines -/

/-- White space between tokens. -/
def isGap (c : Char) : Bool := c = ' ' || c = '\t' || c = '\x0c'

/-- The column that a line starts at, and the line from there.  A form feed goes back to the
first column; if the line is continued by a backslash, the column of the first one counts. -/
def indentation (column held : Nat) : List Char → Option (Nat × List Char)
  | ' ' :: cs => indentation (column + 1) held cs
  | '\t' :: cs => indentation ((column / 8 + 1) * 8) held cs
  | '\x0c' :: cs => indentation 0 held cs
  | '\\' :: '\n' :: c :: cs => indentation column (if held = 0 then column else held) (c :: cs)
  | '\\' :: _ => none
  | cs => some (if held = 0 then column else held, cs)

/-- A text from its first line with something else than a comment, which must not be indented. -/
def fromFirstLine : Nat → List Char → Option (List Char)
  | 0, _ => none
  | fuel + 1, cs => do
    let (column, line) ← indentation 0 0 cs
    match line with
    | '\n' :: rest => fromFirstLine fuel rest
    | '#' :: _ =>
      match line.dropWhile (· ≠ '\n') with
      | _ :: rest => fromFirstLine fuel rest
      | [] => return []
    | line => if column = 0 then return line else none

/-- Whether nothing but blank lines and comments is in a text. -/
def isBlankText (cs : List Char) : Bool := fromFirstLine (cs.length + 1) cs == some []

/-- The most brackets that are open at once. -/
def bracketLimit : Nat := 200

/-- How many brackets are open after a token, none if too many are or one closes too much. -/
def depthAfter (depth : Nat) : Token → Option Nat
  | .leftParen | .leftBrace => if depth < bracketLimit then some (depth + 1) else none
  | .rightParen | .rightBrace => if depth = 0 then none else some (depth - 1)
  | _ => some depth

/-- The tokens of a text within so many open brackets. -/
def tokensFrom : Nat → Nat → List Char → Option (List Token)
  | _, depth, [] => if depth = 0 then some [] else none
  | 0, _, _ => none
  | fuel + 1, depth, c :: cs =>
    if isGap c then tokensFrom fuel depth cs
    else if c = '#' then tokensFrom fuel depth (cs.dropWhile (· ≠ '\n'))
    else if c = '\n' then
      if 0 < depth then tokensFrom fuel depth cs
      else if isBlankText cs then some []
      else none
    else if c = '\\' then
      match cs with
      | '\n' :: d :: rest => tokensFrom fuel depth (d :: rest)
      | _ => none
    else do
      let (token, rest) ← readToken (c :: cs)
      let depth ← depthAfter depth token
      let tokens ← tokensFrom fuel depth rest
      return token :: tokens

/-- The tokens of a text, none if something in it is no token. -/
def tokens? (cs : List Char) : Option (List Token) :=
  let cs := Text.normalizeNewlines cs
  if cs.contains '\x00' then none
  else (fromFirstLine (cs.length + 1) cs).bind fun cs => tokensFrom (cs.length + 1) 0 cs

end SuiteCompiler.Console.Handler
