/-
  SuiteCompiler/Text/CharacterName.lean
  =====================================
  Which texts are names of characters.  Most names are listed, and either case of
  letters is good for them; the unified ideographs are named by their scalar values,
  and the syllables of Hangul by their sounds.
-/
import SuiteCompiler.Text.CharacterNameTable
import SuiteCompiler.Text.Ranges

namespace SuiteCompiler.Text

/-! ### Listed names -/

/-- A search through the listed names. -/
structure NameSearch where
  /-- What has been read of a name, reversed. -/
  name : List Char := []
  /-- Whether the wanted name is one of those before it. -/
  found : Bool := false
  deriving DecidableEq, Repr

namespace NameSearch

/-- Whether the wanted name, which is given reversed, has been met. -/
def hasMet (wanted : List Char) (s : NameSearch) : Bool := s.found || s.name == wanted

/-- A search after one more character of the list.  A mark ends a name, and the next one starts
with as many of its characters as the mark says. -/
def step (wanted : List Char) (s : NameSearch) (c : Char) : NameSearch :=
  match shareMarks.idxOf? c with
  | some shared => ⟨s.name.drop (s.name.length - shared), s.hasMet wanted⟩
  | none => { s with name := c :: s.name }

end NameSearch

/-- Whether a name is listed; letters of the list are capital letters. -/
def isListedName (name : List Char) : Bool :=
  let wanted := name.reverse
  let search := nameLines.foldl (fun s line => line.foldl (NameSearch.step wanted) s) {}
  search.hasMet wanted

/-! ### Names by rule -/

/-- The ranges of the unified ideographs. -/
def ideographRanges : List (Nat × Nat) :=
  [(0x3400, 0x4DBF), (0x4E00, 0x9FFF), (0x20000, 0x2A6DF), (0x2A700, 0x2B738),
   (0x2B740, 0x2B81D), (0x2B820, 0x2CEA1), (0x2CEB0, 0x2EBE0), (0x30000, 0x3134A)]

/-- The value of a hexadecimal digit, as names of ideographs write it. -/
def capitalHexDigit? (c : Char) : Option Nat :=
  if c.isDigit then some (c.toNat - '0'.toNat)
  else if 'A' ≤ c && c ≤ 'F' then some (c.toNat - 'A'.toNat + 10)
  else none

/-- Whether four or five hexadecimal digits are the scalar value of a unified ideograph. -/
def isIdeographCode (code : List Char) : Bool :=
  let values := code.filterMap capitalHexDigit?
  values.length == code.length && (code.length == 4 || code.length == 5) &&
    inRanges ideographRanges (values.foldl (fun n d => n * 16 + d) 0)

/-- The sounds that a syllable may start with, one of them silent. -/
def leadingSounds : List String :=
  ["G", "GG", "N", "D", "DD", "R", "M", "B", "BB", "S", "SS", "", "J", "JJ", "C", "K", "T", "P",
   "H"]

/-- The vowels of syllables. -/
def vowelSounds : List String :=
  ["A", "AE", "YA", "YAE", "EO", "E", "YEO", "YE", "O", "WA", "WAE", "OE", "YO", "U", "WEO", "WE",
   "WI", "YU", "EU", "YI", "I"]

/-- The sounds that a syllable may end with, or nothing. -/
def trailingSounds : List String :=
  ["", "G", "GG", "GS", "N", "NJ", "NH", "D", "L", "LG", "LM", "LB", "LS", "LT", "LP", "LH", "M",
   "B", "BS", "S", "SS", "NG", "J", "C", "K", "T", "P", "H"]

/-- What follows the longest sound that a text starts with. -/
def afterSound? (sounds : List String) (cs : List Char) : Option (List Char) :=
  let lengths := (sounds.filter fun s => s.toList.isPrefixOf cs).map String.length
  lengths.max?.map cs.drop

/-- Whether a text is the sounds of a syllable. -/
def isSyllable (cs : List Char) : Bool :=
  let rest := ((afterSound? leadingSounds cs).bind (afterSound? vowelSounds)).bind
    (afterSound? trailingSounds)
  rest == some []

/-- What follows an opening in a text. -/
def afterOpening? (opening : String) (cs : List Char) : Option (List Char) :=
  if opening.toList.isPrefixOf cs then some (cs.drop opening.length) else none

/-- Whether a text is the name of a character. -/
def isCharacterName (name : List Char) : Bool :=
  match afterOpening? "HANGUL SYLLABLE " name, afterOpening? "CJK UNIFIED IDEOGRAPH-" name with
  | some sounds, _ => isSyllable sounds
  | none, some code => isIdeographCode code
  | none, none => !name.isEmpty && isListedName (name.map Char.toUpper)

end SuiteCompiler.Text
