/-
  SuiteCompiler/Console/Markup.lean
  =================================
  Messages with markup, taken apart.  A tag stands in square brackets; a bracket
  that opens no tag, or a tag after a backslash, is text.
-/
import SuiteCompiler.Text.Blank

namespace SuiteCompiler.Console

/-- A tag: its name, and what stands after the first equals sign if there is one. -/
structure Tag where
  name : List Char
  parameters : Option (List Char) := none
  deriving DecidableEq, Repr

namespace Tag

/-- The tag with some text between its brackets. -/
def ofBody (body : List Char) : Tag where
  name := body.takeWhile (· ≠ '=')
  parameters :=
    match body.dropWhile (· ≠ '=') with
    | _ :: parameters => some parameters
    | [] => none

/-- The name of the tag that a closing tag closes, empty for the innermost one; none if the tag
is no closing tag. -/
def closes? (tag : Tag) : Option (List Char) :=
  match tag.name with
  | '/' :: name => some (Text.trimWhile Text.isBlank name)
  | _ => none

end Tag

namespace Markup

/-- A part of a message. -/
inductive Part where
  | plain (text : List Char)
  | tag (tag : Tag)
  deriving DecidableEq, Repr

/-- A character that may stand first in a tag. -/
def startsTag (c : Char) : Bool := ('a' ≤ c && c ≤ 'z') || c = '#' || c = '/' || c = '@'

/-- What stands before the first closing bracket, and what follows it, unless an opening bracket
comes first. -/
def upToBracket : List Char → Option (List Char × List Char)
  | [] => none
  | c :: rest =>
    if c = ']' then some ([], rest)
    else if c = '[' then none
    else (upToBracket rest).map fun (body, rest) => (c :: body, rest)

/-- The text in a tag whose opening bracket is followed by `cs`, and what follows the tag. -/
def tagBody? (cs : List Char) : Option (List Char × List Char) :=
  match cs with
  | [] => none
  | c :: _ => if startsTag c then upToBracket cs else none

/-- Text in which a backslash before a bracket is dropped. -/
def unescape : List Char → List Char
  | [] => []
  | '\\' :: '[' :: rest => '[' :: unescape rest
  | c :: rest => c :: unescape rest

/-- A part of plain text, unless it is empty. -/
def plainPart (text : List Char) : List Part :=
  if text.isEmpty then [] else [.plain (unescape text)]

/-- The part that a tag after backslashes is: an odd number of them makes it text. -/
def tagPart (slashes : Nat) (body : List Char) : Part :=
  if slashes % 2 = 1 then .plain ('[' :: (body ++ [']'])) else .tag (Tag.ofBody body)

/-- The parts of a message after the text `before`, reversed, and some backslashes.  Of backslashes
before a tag every second one stays. -/
def partsFrom (before : List Char) (slashes : Nat) : Nat → List Char → List Part
  | 0, _ => []
  | _ + 1, [] => plainPart (before.reverse ++ List.replicate slashes '\\')
  | fuel + 1, c :: rest =>
    if c = '\\' then partsFrom before (slashes + 1) fuel rest
    else
      match if c = '[' then tagBody? rest else none with
      | some (body, after) =>
        plainPart before.reverse ++ plainPart (List.replicate (slashes / 2) '\\') ++
          tagPart slashes body :: partsFrom [] 0 fuel after
      | none => partsFrom (c :: (List.replicate slashes '\\' ++ before)) 0 fuel rest

/-- The parts of a message. -/
def parts (message : List Char) : List Part := partsFrom [] 0 (message.length + 1) message

end Markup

end SuiteCompiler.Console
