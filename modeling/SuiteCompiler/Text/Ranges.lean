/-
  SuiteCompiler/Text/Ranges.lean
  ==============================
  Membership in a table of code point ranges.  The tables are listed in
  increasing order, so a search stops at the first range that lies above the
  code point; text in the Latin range is decided within a few steps.
-/

namespace SuiteCompiler.Text

/-- Whether `c` lies in one of the closed ranges, which are listed in increasing order. -/
def inRanges : List (Nat × Nat) → Nat → Bool
  | [], _ => false
  | (low, high) :: rest, c =>
    if c < low then false else if c ≤ high then true else inRanges rest c

end SuiteCompiler.Text
