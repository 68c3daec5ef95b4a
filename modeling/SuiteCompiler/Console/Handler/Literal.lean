/-
  SuiteCompiler/Console/Handler/Literal.lean
  ==========================================
  Which texts are literals: a number, with a sign or with an imaginary number added
  to it, a quoted text, bytes, a constant, a tuple, a set or a dictionary of
  literals.  What a literal denotes does not matter, except for what may be put
  where: a set and the keys of a dictionary hold no sets and no dictionaries.
-/
import SuiteCompiler.Console.Handler.Token
import SuiteCompiler.Number.Double

namespace SuiteCompiler.Console.Handler

/-- What a part of a literal is, as far as its place in the whole goes. -/
inductive Shape where
  /-- A number, which may get a sign or be added to. -/
  | number (n : NumberToken) (signed : Bool)
  /-- Any other value that may be put everywhere. -/
  | plain
  /-- A value that has a set or a dictionary in it. -/
  | unhashable
  /-- The name of sets, which is no value before it is called. -/
  | setName
  deriving DecidableEq, Repr

namespace Shape

/-- Whether the part is a value. -/
def isValue (s : Shape) : Bool := s ≠ .setName

/-- Whether the part may be in a set or be a key. -/
def isHashable : Shape → Bool
  | .number _ _ => true
  | .plain => true
  | .unhashable => false
  | .setName => false

/-- Whether an imaginary number can be added to the part: it is a real number, and if it is
whole, it is not beyond the floating-point numbers. -/
def isRealPart : Shape → Bool
  | .number (.whole n) _ =>
    match Number.Double.ofDecimal false n 0 with
    | .finite .. => true
    | _ => false
  | .number .real _ => true
  | _ => false

/-- A tuple of parts. -/
def tuple (parts : List Shape) : Option Shape :=
  if parts.all isHashable then some .plain
  else if parts.all isValue then some .unhashable
  else none

end Shape

/-- A part of a literal at the start of some tokens, and the tokens that follow it. -/
abbrev Part := List Token → Option (Shape × List Token)

/-- A part with an imaginary number added to it or taken from it, if one follows. -/
def withImaginary (atom : Part) (left : Shape) (tokens : List Token) :
    Option (Shape × List Token) :=
  let added := fun (rest : List Token) =>
    match atom rest with
    | some (.number .imaginary false, rest) => if left.isRealPart then some (.plain, rest) else none
    | _ => none
  match tokens with
  | .plus :: rest => added rest
  | .minus :: rest => added rest
  | tokens => some (left, tokens)

/-- A part with what may be before it and after it: a sign, and an imaginary number. -/
def expression (atom : Part) : Part := fun tokens =>
  let signed := fun (rest : List Token) =>
    match atom rest with
    | some (.number n false, rest) => withImaginary atom (.number n true) rest
    | _ => none
  match tokens with
  | .plus :: rest => signed rest
  | .minus :: rest => signed rest
  | tokens => (atom tokens).bind fun (left, rest) => withImaginary atom left rest

/-- Items with commas between them: the items, whether a comma follows the last one, and the
tokens that follow.  The list ends before `closing`, or with the tokens if there is none. -/
def commaSeparated {α : Type} (item : List Token → Option (α × List Token))
    (closing : Option Token) : Nat → List Token → Option (List α × Bool × List Token)
  | 0, _ => none
  | fuel + 1, tokens => do
    let (first, rest) ← item tokens
    match rest with
    | .comma :: rest =>
      if rest.head? = closing then return ([first], true, rest)
      else
        let (others, trailing, rest) ← commaSeparated item closing fuel rest
        return (first :: others, trailing, rest)
    | rest => return ([first], false, rest)

/-- A part between braces, and whether it is a key that a value follows. -/
def entry (part : Part) (tokens : List Token) : Option ((Shape × Bool) × List Token) := do
  let (key, rest) ← part tokens
  match rest with
  | .colon :: rest =>
    let (value, rest) ← part rest
    if value.isValue then return ((key, true), rest) else none
  | rest => return ((key, false), rest)

/-- A set or a dictionary after its opening brace, which is not empty.  Every part has a value, or
none has. -/
def braced (part : Part) (tokens : List Token) : Option (Shape × List Token) := do
  let (entries, _, rest) ←
    commaSeparated (entry part) (some .rightBrace) tokens.length tokens
  match rest with
  | .rightBrace :: rest =>
    let alike := entries.all (·.2) || entries.all (!·.2)
    if alike && entries.all (·.1.isHashable) then return (.unhashable, rest) else none
  | _ => none

/-- What is in parentheses, after the opening one: a single part without a comma is itself,
anything else a tuple. -/
def parenthesized (part : Part) (tokens : List Token) : Option (Shape × List Token) := do
  let (parts, trailing, rest) ←
    commaSeparated part (some .rightParen) tokens.length tokens
  match rest with
  | .rightParen :: rest =>
    match parts, trailing with
    | [inner], false => return (inner, rest)
    | parts, _ => return (← Shape.tuple parts, rest)
  | _ => none

/-- A call of the name of sets, if the part is that and a call follows. -/
def called : Shape × List Token → Shape × List Token
  | (.setName, .leftParen :: .rightParen :: rest) => (.unhashable, rest)
  | other => other

/-- A part without a sign, within so many brackets. -/
def atom : Nat → Part
  | 0, _ => none
  | depth + 1, tokens =>
    let part := expression (atom depth)
    let found : Option (Shape × List Token) :=
      match tokens with
      | .number n :: rest => some (.number n false, rest)
      | .text :: rest => some (.plain, rest.dropWhile (· = .text))
      | .bytes :: rest => some (.plain, rest.dropWhile (· = .bytes))
      | .constant :: rest => some (.plain, rest)
      | .setName :: rest => some (.setName, rest)
      | .leftParen :: .rightParen :: rest => some (.plain, rest)
      | .leftParen :: rest => parenthesized part rest
      | .leftBrace :: .rightBrace :: rest => some (.unhashable, rest)
      | .leftBrace :: rest => braced part rest
      | _ => none
    found.map called

/-- Whether a text is a literal.  Outside parentheses, too, commas make a tuple. -/
def isLiteral (cs : List Char) : Bool :=
  match tokens? cs with
  | none => false
  | some tokens =>
    match commaSeparated (expression (atom (bracketLimit + 1))) none tokens.length tokens with
    | some (parts, _, []) => parts.all Shape.isValue
    | _ => false

end SuiteCompiler.Console.Handler
