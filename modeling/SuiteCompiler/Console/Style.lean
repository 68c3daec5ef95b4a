/-
  SuiteCompiler/Console/Style.lean
  ================================
  Styles of printed text: what is switched on or off, the colours, and the address
  that the text leads to.  A style is written as words in any order; written back,
  the words stand in a fixed order, so two spellings of one style have one normal
  form.
-/
import SuiteCompiler.Console.Color
import SuiteCompiler.Text.Word

namespace SuiteCompiler.Console

/-- What a style can switch on or off. -/
inductive Attribute where
  | bold
  | dim
  | italic
  | underline
  | blink
  | fastBlink
  | reverse
  | conceal
  | strike
  | doubleUnderline
  | frame
  | encircle
  | overline
  deriving DecidableEq, Repr

namespace Attribute

/-- The attributes in the order in which they are written. -/
def all : List Attribute :=
  [.bold, .dim, .italic, .underline, .blink, .fastBlink, .reverse, .conceal, .strike,
   .doubleUnderline, .frame, .encircle, .overline]

/-- The word that an attribute is written as. -/
def name : Attribute → String
  | .bold => "bold"
  | .dim => "dim"
  | .italic => "italic"
  | .underline => "underline"
  | .blink => "blink"
  | .fastBlink => "blink2"
  | .reverse => "reverse"
  | .conceal => "conceal"
  | .strike => "strike"
  | .doubleUnderline => "underline2"
  | .frame => "frame"
  | .encircle => "encircle"
  | .overline => "overline"

/-- The short words for attributes. -/
def shortNames : List (String × Attribute) :=
  [("b", .bold), ("d", .dim), ("i", .italic), ("u", .underline), ("r", .reverse),
   ("c", .conceal), ("s", .strike), ("uu", .doubleUnderline), ("o", .overline)]

/-- The attribute that a word names. -/
def ofWord? (word : String) : Option Attribute :=
  match all.find? (·.name = word) with
  | some a => some a
  | none => shortNames.lookup word

end Attribute

/-- A style of printed text. -/
structure Style where
  /-- What is switched on and off, the last mention first. -/
  attributes : List (Attribute × Bool) := []
  color : Option Color := none
  background : Option Color := none
  /-- The address that the text leads to. -/
  link : Option String := none
  deriving DecidableEq, Repr

namespace Style

/-! ### Reading -/

/-- A style with an attribute switched on or off. -/
def switch (style : Style) (a : Attribute) (on : Bool) : Style :=
  { style with attributes := (a, on) :: style.attributes }

/-- What the words of a style add to it.  The words `on`, `not` and `link` say what the next word
is; any other is an attribute or a colour, in either case of letters. -/
def readWords (style : Style) : List String → Except StyleFault Style
  | [] => .ok style
  | word :: rest =>
    let plain := Text.lower word
    if plain = "on" then
      match rest with
      | [] => .error .malformed
      | ground :: rest =>
        match Color.parse ground with
        | .ok color => readWords { style with background := some color } rest
        | .error fault => .error fault
    else if plain = "not" then
      match rest with
      | [] => .error .malformed
      | name :: rest =>
        match Attribute.ofWord? name with
        | some a => readWords (style.switch a false) rest
        | none => .error .malformed
    else if plain = "link" then
      match rest with
      | [] => .error .malformed
      | address :: rest => readWords { style with link := some address } rest
    else
      match Attribute.ofWord? plain with
      | some a => readWords (style.switch a true) rest
      | none =>
        match Color.parse plain with
        | .ok color => readWords { style with color := some color } rest
        | .error fault => .error fault

/-- The word for the style that changes nothing. -/
def noneName : String := "none"

/-- The style that a text denotes. -/
def parse (text : String) : Except StyleFault Style :=
  if Text.strip text = noneName then .ok {} else readWords {} (Text.words text)

/-! ### Writing -/

/-- The words of a style. -/
def wordList (style : Style) : List String :=
  let switched := fun (a : Attribute) =>
    (style.attributes.lookup a).map fun on => if on then a.name else s!"not {a.name}"
  let color := style.color.toList.map Color.name
  let background := style.background.toList.map fun c => s!"on {c.name}"
  let link := style.link.toList.map fun address => s!"link {address}"
  Attribute.all.filterMap switched ++ color ++ background ++ link

/-- A style as text. -/
def text (style : Style) : String :=
  let words := style.wordList
  if words.isEmpty then noneName else " ".intercalate words

/-- The normal form of the text of a style.  A text that is no style is one by itself, in lower
case. -/
def normalize (name : String) : Except StyleFault String :=
  match parse name with
  | .ok style => .ok style.text
  | .error .malformed => .ok (Text.lower (Text.strip name))
  | .error .notANumber => .error .notANumber

end Style

end SuiteCompiler.Console
