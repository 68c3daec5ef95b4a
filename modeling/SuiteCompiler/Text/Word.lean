/-
  SuiteCompiler/Text/Word.lean
  ============================
  Words: runs of letters, digits and underscores of any script, and runs of
  anything but white space.
-/
import SuiteCompiler.Text.Blank
import SuiteCompiler.Text.WordTable

namespace SuiteCompiler.Text

/-- A letter, a digit or another number of any script, or the underscore. -/
def isWordPart (c : Char) : Bool := inRanges wordRanges c.toNat

/-- The pieces between the characters of a class. -/
def piecesBetween (p : Char → Bool) : List Char → List (List Char)
  | [] => [[]]
  | c :: cs =>
    if p c then [] :: piecesBetween p cs
    else
      match piecesBetween p cs with
      | piece :: pieces => (c :: piece) :: pieces
      | [] => [[c]]

/-- The words of a text, as white space separates them. -/
def words (s : String) : List String :=
  ((piecesBetween isBlank s.toList).filter fun w => !w.isEmpty).map String.ofList

end SuiteCompiler.Text
