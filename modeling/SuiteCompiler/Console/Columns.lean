/-
  SuiteCompiler/Console/Columns.lean
  ==================================
  The columns that printed characters take, and tabs.  A tab reaches to the next
  multiple of eight columns and takes at least one.
-/
import SuiteCompiler.Console.WidthTable

namespace SuiteCompiler.Console

/-- The number of columns that a character takes. -/
def columns (c : Char) : Nat :=
  if Text.inRanges zeroWidthRanges c.toNat then 0
  else if Text.inRanges doubleWidthRanges c.toNat then 2
  else 1

/-- The distance between two tab stops. -/
def tabWidth : Nat := 8

/-- A text with spaces for its tabs; `column` columns of its first line are taken already. -/
def expandTabs (column : Nat) : List Char → List Char
  | [] => []
  | '\t' :: rest =>
    let width := tabWidth - column % tabWidth
    List.replicate width ' ' ++ expandTabs (column + width) rest
  | '\n' :: rest => '\n' :: expandTabs 0 rest
  | c :: rest => c :: expandTabs (column + columns c) rest

/-- Nothing changes in a text without tabs. -/
theorem expandTabs_of_notMem {cs : List Char} (h : '\t' ∉ cs) (column : Nat) :
    expandTabs column cs = cs := by
  induction cs generalizing column with
  | nil => rfl
  | cons c cs ih =>
    have hc : c ≠ '\t' := fun e => h (e ▸ List.mem_cons_self)
    have hcs : '\t' ∉ cs := fun e => h (List.mem_cons_of_mem c e)
    by_cases hn : c = '\n'
    · subst hn
      simp [expandTabs, ih hcs]
    · simp [expandTabs, ih hcs]

end SuiteCompiler.Console
