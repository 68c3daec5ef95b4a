/-
  SuiteCompiler/Text/Letters.lean
  ===============================
  Lower and upper case.  Lower case is Unicode's, which needs the neighbours of a
  capital sigma: at the end of a word it has a form of its own.  Upper case goes as
  far as names made of plain Latin letters do: a character outside the Latin range
  matters only if its upper case is made of plain letters, and there are few of
  those; every other character is left as it is, which never makes a plain name of
  a text that is none.
-/
import SuiteCompiler.Text.CaseTable

namespace SuiteCompiler.Text

/-! ### Lower case -/

/-- The lower case of a character that does not depend on its neighbours.  The dotted capital I
is the only one whose lower case has two characters. -/
def lowerChar (c : Char) : List Char :=
  if c = '\u0130' then ['i', '\u0307']
  else
    let n := c.toNat
    let holds := fun (run : Nat × Nat × Nat × Nat) =>
      run.1 ≤ n && n ≤ run.2.1 && (n - run.1) % run.2.2.1 == 0
    match lowerRuns.find? holds with
    | some (first, _, _, lower) => [Char.ofNat (lower + (n - first))]
    | none => [c]

/-- Whether the first character that counts for the case of a word has a case. -/
def meetsCased (cs : List Char) : Bool :=
  match cs.dropWhile fun c => inRanges caseIgnorableRanges c.toNat with
  | [] => false
  | c :: _ => inRanges casedRanges c.toNat

/-- The lower case of characters; `before` holds those that precede them, the nearest first.  A
capital sigma between a letter and the end of the word is a final sigma. -/
def lowerFrom (before : List Char) : List Char → List Char
  | [] => []
  | c :: rest =>
    let lower :=
      if c = 'Σ' then (if meetsCased before && !meetsCased rest then ['ς'] else ['σ'])
      else lowerChar c
    lower ++ lowerFrom (c :: before) rest

/-- A text in lower case. -/
def lower (s : String) : String := String.ofList (lowerFrom [] s.toList)

/-! ### Upper case -/

/-- The upper case of a character, which may be several: the sharp s, the dotless i, the long s
and the seven ligatures become plain letters. -/
def upperChar (c : Char) : List Char :=
  match c.toNat with
  | 0xDF => ['S', 'S']
  | 0x131 => ['I']
  | 0x17F => ['S']
  | 0xFB00 => ['F', 'F']
  | 0xFB01 => ['F', 'I']
  | 0xFB02 => ['F', 'L']
  | 0xFB03 => ['F', 'F', 'I']
  | 0xFB04 => ['F', 'F', 'L']
  | 0xFB05 => ['S', 'T']
  | 0xFB06 => ['S', 'T']
  | _ => [c.toUpper]

/-- A text in upper case. -/
def upper (s : String) : String := String.ofList (s.toList.flatMap upperChar)

end SuiteCompiler.Text
