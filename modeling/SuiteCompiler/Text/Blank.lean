/-
  SuiteCompiler/Text/Blank.lean
  =============================
  White space in the wide sense: every character with the Unicode property
  `White_Space`, and the four information separators U+001C to U+001F.  Markers,
  configuration values and markup tags are stripped of it.
-/

namespace SuiteCompiler.Text

/-- A white-space character. -/
def isBlank (c : Char) : Bool :=
  let n := c.toNat
  (0x09 ≤ n && n ≤ 0x0D) || (0x1C ≤ n && n ≤ 0x20) || n == 0x85 || n == 0xA0 ||
  n == 0x1680 || (0x2000 ≤ n && n ≤ 0x200A) || n == 0x2028 || n == 0x2029 ||
  n == 0x202F || n == 0x205F || n == 0x3000

/-- A text without the characters of a class at its end. -/
def dropEndWhile (p : Char → Bool) (cs : List Char) : List Char :=
  (cs.reverse.dropWhile p).reverse

/-- A text without the characters of a class at either end. -/
def trimWhile (p : Char → Bool) (cs : List Char) : List Char :=
  dropEndWhile p (cs.dropWhile p)

/-- A text without the white space around it. -/
def strip (s : String) : String := String.ofList (trimWhile isBlank s.toList)

end SuiteCompiler.Text
