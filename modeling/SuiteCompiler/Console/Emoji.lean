/-
  SuiteCompiler/Console/Emoji.lean
  ================================
  Pictures by name.  A name between two colons, with no white space in it, stands
  for its picture; an ending of the name asks for the picture as a plain sign or as
  an image.  Between colons that hold no known name everything stays, and the
  second colon opens nothing.
-/
import SuiteCompiler.Console.EmojiTable
import SuiteCompiler.Text.Blank
import SuiteCompiler.Text.Letters
import SuiteCompiler.Text.Lines

namespace SuiteCompiler.Console.Emoji

/-- Names, each with the picture that follows it. -/
def pairUp : List String → List (String × String)
  | name :: picture :: rest => (name, picture) :: pairUp rest
  | _ => []

/-- The pictures by their names. -/
def pictures : List (String × String) := pairUp (emojiLines.flatMap (Text.split ' '))

/-- The endings of a name, each with the mark that it puts after the picture. -/
def variants : List (String × Char) := [("-text", '\ufe0e'), ("-emoji", '\ufe0f')]

/-- The name in a code, and the marks that its ending asks for. -/
def splitVariant (code : List Char) : List Char × List Char :=
  match variants.find? fun variant => variant.1.toList.isSuffixOf code with
  | some (ending, mark) => (code.take (code.length - ending.length), [mark])
  | none => (code, [])

/-- The picture that a code stands for, in either case of letters. -/
def picture? (code : List Char) : Option (List Char) :=
  let (name, marks) := splitVariant code
  (pictures.lookup (Text.lower (String.ofList name))).map fun picture => picture.toList ++ marks

/-- What stands for a code between colons. -/
def decode (code : List Char) : List Char := (picture? code).getD (':' :: (code ++ [':']))

/-- A text with pictures for their codes; `opened` is what has been read of a code since its
first colon, reversed. -/
def replaceFrom (opened : Option (List Char)) : List Char → List Char
  | [] =>
    match opened with
    | none => []
    | some code => ':' :: code.reverse
  | c :: cs =>
    match opened with
    | none => if c = ':' then replaceFrom (some []) cs else c :: replaceFrom none cs
    | some code =>
      if c = ':' then decode code.reverse ++ replaceFrom none cs
      else if Text.isBlank c then ':' :: (code.reverse ++ c :: replaceFrom none cs)
      else replaceFrom (some (c :: code)) cs

/-- A text with pictures for their codes. -/
def replace (cs : List Char) : List Char := replaceFrom none cs

end SuiteCompiler.Console.Emoji
