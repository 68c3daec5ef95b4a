/-
  SuiteCompiler/Console/Message.lean
  ==================================
  Printing a message with markup where there are no styles: a tag sets a style from
  where it stands to its closing tag, and nothing remains of either.  Still a
  message can be at fault: a closing tag that closes nothing, a handler that is
  given no literal, a colour with a part that is no number.  How a text that is too wide
  for its screen is broken into lines does not belong here.
-/
import SuiteCompiler.Console.Columns
import SuiteCompiler.Console.Emoji
import SuiteCompiler.Console.Handler
import SuiteCompiler.Console.Markup
import SuiteCompiler.Console.Style

namespace SuiteCompiler.Console

/-- Why a message cannot be printed. -/
inductive MessageFault where
  /-- A closing tag is out of place, or its opening tag sets a handler wrongly. -/
  | markup
  /-- A part of a colour is no number. -/
  | notANumber
  deriving DecidableEq, Repr

/-- A tag that is not closed yet. -/
structure OpenTag where
  /-- The name in normal form. -/
  name : String
  parameters : Option (List Char)
  /-- The number of characters before the tag. -/
  start : Nat
  deriving DecidableEq, Repr

/-- A stretch of text with one style. -/
structure Span where
  start : Nat
  stop : Nat
  /-- The style as the tag gives it. -/
  style : String
  deriving DecidableEq, Repr

namespace OpenTag

/-- Whether the tag sets a handler and no style. -/
def isHandler (tag : OpenTag) : Bool := tag.name.toList.head? == some '@'

/-- What the tag says about the text up to its closing tag. -/
def span (tag : OpenTag) (stop : Nat) : Span where
  start := tag.start
  stop := stop
  style :=
    match tag.parameters with
    | none => tag.name
    | some parameters => tag.name ++ " " ++ String.ofList parameters

end OpenTag

/-- A message as far as it has been put together. -/
structure Message where
  text : List Char := []
  /-- The tags that are not closed, the innermost first. -/
  openTags : List OpenTag := []
  spans : List Span := []
  deriving DecidableEq, Repr

namespace Message

/-! ### Putting together -/

/-- The normal form of the name of a tag. -/
def normalName (name : List Char) : Except MessageFault String :=
  match Style.normalize (String.ofList name) with
  | .ok name => .ok name
  | .error _ => .error .notANumber

/-- The innermost tag of a name, and the tags without it. -/
def takeTag (name : String) : List OpenTag → Option (OpenTag × List OpenTag)
  | [] => none
  | tag :: tags =>
    if tag.name = name then some (tag, tags)
    else (takeTag name tags).map fun (found, others) => (found, tag :: others)

/-- A message after the end of a tag.  A style is noted; a handler is only checked. -/
def close (m : Message) (tag : OpenTag) (openTags : List OpenTag) : Except MessageFault Message :=
  if tag.isHandler then
    if Handler.accepts (tag.parameters.getD []) then .ok { m with openTags } else .error .markup
  else .ok { m with openTags, spans := tag.span m.text.length :: m.spans }

/-- A message after one more tag. -/
def addTag (m : Message) (tag : Tag) : Except MessageFault Message :=
  match tag.closes? with
  | none => do
    let name ← normalName tag.name
    return { m with openTags := ⟨name, tag.parameters, m.text.length⟩ :: m.openTags }
  | some [] =>
    match m.openTags with
    | [] => .error .markup
    | innermost :: others => m.close innermost others
  | some name => do
    match takeTag (← normalName name) m.openTags with
    | none => .error .markup
    | some (found, others) => m.close found others

/-- A character that is never printed. -/
def isDropped (c : Char) : Bool :=
  c = '\x07' || c = '\x08' || c = '\x0b' || c = '\x0c' || c = '\r'

/-- A message after one more part. -/
def addPart (m : Message) : Markup.Part → Except MessageFault Message
  | .plain text => .ok { m with text := m.text ++ (Emoji.replace text).filter (!isDropped ·) }
  | .tag tag => m.addTag tag

/-- The message that a text with markup denotes. -/
def ofMarkup (markup : String) : Except MessageFault Message :=
  (Markup.parts markup.toList).foldlM addPart {}

/-! ### Printing -/

/-- Every stretch of text with a style; tags that are not closed reach to the end. -/
def allSpans (m : Message) : List Span :=
  m.spans ++ m.openTags.map (·.span m.text.length)

/-- Whether the style of a stretch is looked up.  A text that is cut into lines, or at tabs, keeps
the styles of those pieces that have characters. -/
def isLookedUp (m : Message) (s : Span) : Bool :=
  let stretch := (m.text.take s.stop).drop s.start
  !(m.text.contains '\n' || m.text.contains '\t') || stretch.any (· ≠ '\n')

/-- Whether a stretch has a style with a part of a colour that is no number. -/
def hasBadColor (s : Span) : Bool :=
  match Style.parse s.style with
  | .error .notANumber => true
  | _ => false

/-- The text that a message prints, with its lines as long as they are. -/
def print (m : Message) : Except MessageFault String :=
  if m.allSpans.any fun s => m.isLookedUp s && hasBadColor s then .error .notANumber
  else .ok (String.ofList (expandTabs 0 m.text))

/-- The text that a text with markup prints. -/
def render (markup : String) : Except MessageFault String := do
  (← ofMarkup markup).print

end Message

end SuiteCompiler.Console
