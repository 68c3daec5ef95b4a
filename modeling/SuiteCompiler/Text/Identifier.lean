/-
  SuiteCompiler/Text/Identifier.lean
  ==================================
  Names that may stand as identifiers: a starting character followed by
  continuing ones, by the Unicode properties `XID_Start` and `XID_Continue`.
  The dollar sign is neither.
-/
import SuiteCompiler.Text.IdentifierTable

namespace SuiteCompiler.Text

/-- A character that may start an identifier. -/
def isIdentifierStart (c : Char) : Bool := inRanges identifierStarts c.toNat

/-- A character that may stand in an identifier after the first place. -/
def isIdentifierPart (c : Char) : Bool :=
  isIdentifierStart c || inRanges identifierContinuations c.toNat

/-- An identifier. -/
def isIdentifier (s : String) : Bool :=
  match s.toList with
  | [] => false
  | c :: cs => isIdentifierStart c && cs.all isIdentifierPart

end SuiteCompiler.Text
