/-
  SuiteCompiler/Console/Sequences.lean
  ====================================
  Control sequences of a terminal: an escape character and an opening bracket, then
  digits, semicolons and question marks, and a letter.  Standard output is written
  without them.
-/

namespace SuiteCompiler.Console

/-- A character that may stand between the bracket and the letter of a sequence. -/
def isParameter (c : Char) : Bool := c.isDigit || c = ';' || c = '?'

/-- What follows a control sequence whose bracket is followed by `cs`, if there is one. -/
def afterSequence? (cs : List Char) : Option (List Char) :=
  match cs.dropWhile isParameter with
  | c :: rest => if c.isAlpha then some rest else none
  | [] => none

/-- A text without the control sequences in it. -/
def dropSequencesFrom : Nat → List Char → List Char
  | 0, cs => cs
  | _ + 1, [] => []
  | fuel + 1, c :: cs =>
    let after :=
      match c, cs with
      | '\x1b', '[' :: rest => afterSequence? rest
      | _, _ => none
    match after with
    | some rest => dropSequencesFrom fuel rest
    | none => c :: dropSequencesFrom fuel cs

/-- A text as standard output shows it. -/
def dropSequences (s : String) : String :=
  String.ofList (dropSequencesFrom s.toList.length s.toList)

/-- Nothing is dropped from a text without escape characters. -/
theorem dropSequencesFrom_of_notMem {cs : List Char} (h : '\x1b' ∉ cs) (fuel : Nat) :
    dropSequencesFrom fuel cs = cs := by
  induction fuel generalizing cs with
  | zero => rfl
  | succ fuel ih =>
    cases cs with
    | nil => rfl
    | cons c cs =>
      have hc : c ≠ '\x1b' := fun e => h (e ▸ List.mem_cons_self)
      have hcs : '\x1b' ∉ cs := fun e => h (List.mem_cons_of_mem c e)
      simp [dropSequencesFrom, hc, ih hcs]

/-- Standard output shows a text without escape characters as it is. -/
theorem dropSequences_of_notMem {s : String} (h : '\x1b' ∉ s.toList) : dropSequences s = s := by
  simp [dropSequences, dropSequencesFrom_of_notMem h]

end SuiteCompiler.Console
