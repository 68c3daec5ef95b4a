/-
  SuiteCompiler/Document/Writer.lean
  ==================================
  Values as JSON text.  The same writer serves script literals, which leave
  characters outside ASCII as they are, and payloads that are plain ASCII.  In
  both, no character below U+0020 is left, so the text is one line.
-/
import SuiteCompiler.Document.Literal

namespace SuiteCompiler

/-- How JSON text is laid out: what stands between two items and after a name, and whether
characters outside U+0020 to U+007E are escaped. -/
structure JsonLayout where
  comma : List Char
  colon : List Char
  asciiOnly : Bool

namespace JsonLayout

/-- Script literals: a blank after commas and colons, and only what must be escaped is. -/
def script : JsonLayout := ⟨", ".toList, ": ".toList, false⟩

/-- Plain ASCII with a blank after commas and colons. -/
def ascii : JsonLayout := ⟨", ".toList, ": ".toList, true⟩

/-- Plain ASCII without blanks. -/
def compact : JsonLayout := ⟨",".toList, ":".toList, true⟩

end JsonLayout

namespace Value

/-- A unit of 16 bits as an escape. -/
def escapeUnit (n : Nat) : List Char := '\\' :: 'u' :: Text.hexDigits 4 n

/-- A code point as escapes, of which it takes two above U+FFFF. -/
def escapeCode (n : Nat) : List Char :=
  if n < 0x10000 then escapeUnit n
  else escapeUnit (0xD800 + (n - 0x10000) / 0x400) ++ escapeUnit (0xDC00 + (n - 0x10000) % 0x400)

/-- A character of a JSON text between its quotes. -/
def escapeChar (asciiOnly : Bool) (c : Char) : List Char :=
  if c = '"' then ['\\', '"']
  else if c = '\\' then ['\\', '\\']
  else if c = '\n' then ['\\', 'n']
  else if c = '\r' then ['\\', 'r']
  else if c = '\t' then ['\\', 't']
  else if c = '\x0c' then ['\\', 'f']
  else if c = '\x08' then ['\\', 'b']
  else if c.toNat < 0x20 || (asciiOnly && 0x7E < c.toNat) then escapeCode c.toNat
  else [c]

/-- A text as a JSON text. -/
def jsonText (asciiOnly : Bool) (s : String) : List Char :=
  '"' :: (s.toList.flatMap (escapeChar asciiOnly) ++ ['"'])

/-- A floating-point number as JSON. -/
def jsonFloat : Number.Double → List Char
  | .nan => "NaN".toList
  | .infinite false => "Infinity".toList
  | .infinite true => "-Infinity".toList
  | .finite negative significand exponent => Number.shortest negative significand exponent

mutual

/-- The characters of a value as JSON. -/
def jsonChars (layout : JsonLayout) : Value → List Char
  | .null => "null".toList
  | .bool true => "true".toList
  | .bool false => "false".toList
  | .int n => Number.decimal n
  | .float x => jsonFloat x
  | .text s => jsonText layout.asciiOnly s
  | .list [] => ['[', ']']
  | .list (item :: items) => '[' :: (jsonChars layout item ++ jsonItems layout items ++ [']'])
  | .object [] => ['\x7b', '\x7d']
  | .object ((name, value) :: fields) =>
    '\x7b' :: (jsonText layout.asciiOnly name ++ layout.colon ++ jsonChars layout value ++
      jsonFields layout fields ++ ['\x7d'])

/-- The items after the first one. -/
def jsonItems (layout : JsonLayout) : List Value → List Char
  | [] => []
  | item :: items => layout.comma ++ jsonChars layout item ++ jsonItems layout items

/-- The fields after the first one. -/
def jsonFields (layout : JsonLayout) : List (String × Value) → List Char
  | [] => []
  | (name, value) :: fields =>
    layout.comma ++ jsonText layout.asciiOnly name ++ layout.colon ++ jsonChars layout value ++
      jsonFields layout fields

end

/-- A value as JSON text. -/
def json (layout : JsonLayout) (v : Value) : String := String.ofList (v.jsonChars layout)

/-- A value as a script literal. -/
def script (v : Value) : String := v.json .script

end Value

end SuiteCompiler
