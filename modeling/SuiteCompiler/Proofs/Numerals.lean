/-
  SuiteCompiler/Proofs/Numerals.lean
  ==================================
  The texts that are read as whole numbers.

  A numeral is a run of decimal digits of any script, with single underscores
  between digits.  `readDecimal_eq_ok_iff` says that exactly the numerals of at most
  `digitLimit` digits are read, with a sign or without and with white space around
  them, and that what is read is the number that the digits denote.
-/
import SuiteCompiler.Number.Decimal
import SuiteCompiler.Proofs.Outcome
import Mathlib.Data.List.TakeWhile

namespace SuiteCompiler.Number

open SuiteCompiler.Text

/-! ### Characters -/

/-- A decimal digit of some script. -/
def IsDigit (c : Char) : Prop := (digitValue? c).isSome = true

instance (c : Char) : Decidable (IsDigit c) := inferInstanceAs (Decidable (_ = true))

theorem IsDigit.exists_zero {c : Char} (h : IsDigit c) :
    ∃ z ∈ zeroDigits, z ≤ c.toNat ∧ c.toNat < z + 10 := by
  unfold IsDigit digitValue? at h
  rw [Option.isSome_map, List.find?_isSome] at h
  obtain ⟨z, hz, hrange⟩ := h
  exact ⟨z, hz, by simpa using hrange⟩

/-- The code points of white space, as closed ranges. -/
def blankRanges : List (Nat × Nat) :=
  [(0x09, 0x0D), (0x1C, 0x20), (0x85, 0x85), (0xA0, 0xA0), (0x1680, 0x1680), (0x2000, 0x200A),
   (0x2028, 0x2028), (0x2029, 0x2029), (0x202F, 0x202F), (0x205F, 0x205F), (0x3000, 0x3000)]

theorem exists_blankRange {c : Char} (h : isBlank c = true) :
    ∃ range ∈ blankRanges, range.1 ≤ c.toNat ∧ c.toNat ≤ range.2 := by
  simp only [isBlank, Bool.or_eq_true, Bool.and_eq_true, decide_eq_true_eq, beq_iff_eq] at h
  rcases h with (((((((((h | h) | h) | h) | h) | h) | h) | h) | h) | h) | h
  all_goals first
    | exact ⟨(_, _), by simp [blankRanges], h⟩
    | exact ⟨(_, _), by simp [blankRanges], Nat.le_of_eq h.symm, Nat.le_of_eq h⟩

/-- No digit is white space. -/
theorem IsDigit.not_isNumberBlank {c : Char} (h : IsDigit c) : isNumberBlank c = false := by
  have hdisjoint : ∀ z ∈ zeroDigits, ∀ range ∈ blankRanges, range.2 < z ∨ z + 10 ≤ range.1 := by
    decide
  cases hb : isBlank c with
  | false => simp [isNumberBlank, hb]
  | true =>
    obtain ⟨z, hz, hlow, hhigh⟩ := h.exists_zero
    obtain ⟨range, hrange, hfrom, hto⟩ := exists_blankRange hb
    rcases hdisjoint z hz range hrange with hbelow | habove <;> omega

theorem IsDigit.ne_underscore {c : Char} (h : IsDigit c) : c ≠ '_' := by
  rintro rfl
  exact absurd h (by decide)

theorem IsDigit.ne_minus {c : Char} (h : IsDigit c) : c ≠ '-' := by
  rintro rfl
  exact absurd h (by decide)

theorem IsDigit.ne_plus {c : Char} (h : IsDigit c) : c ≠ '+' := by
  rintro rfl
  exact absurd h (by decide)

/-! ### Numerals -/

/-- A run of digits with single underscores between digits. -/
inductive IsNumeral : List Char → Prop where
  | digit {c : Char} : IsDigit c → IsNumeral [c]
  | cons {c : Char} {cs : List Char} : IsDigit c → IsNumeral cs → IsNumeral (c :: cs)
  | separated {c : Char} {cs : List Char} : IsDigit c → IsNumeral cs → IsNumeral (c :: '_' :: cs)

/-- The values of the digits of a numeral. -/
def numeralValues (cs : List Char) : List Nat := cs.filterMap digitValue?

/-- A character that may stand in a numeral. -/
def inNumeral (c : Char) : Bool := c = '_' || (digitValue? c).isSome

theorem IsNumeral.all_inNumeral {cs : List Char} (h : IsNumeral cs) :
    ∀ c ∈ cs, inNumeral c = true := by
  have hdigit : ∀ {c : Char}, IsDigit c → inNumeral c = true := by
    intro c hc
    simp [inNumeral, show (digitValue? c).isSome = true from hc]
  induction h with
  | digit hc => simpa using hdigit hc
  | cons hc _ ih =>
    intro d hd
    rcases List.mem_cons.1 hd with rfl | hd
    · exact hdigit hc
    · exact ih d hd
  | separated hc _ ih =>
    intro d hd
    rcases List.mem_cons.1 hd with rfl | hd
    · exact hdigit hc
    · rcases List.mem_cons.1 hd with rfl | hd
      · rfl
      · exact ih d hd

theorem IsNumeral.exists_head {cs : List Char} (h : IsNumeral cs) :
    ∃ c rest, cs = c :: rest ∧ IsDigit c := by
  cases h with
  | digit hc => exact ⟨_, _, rfl, hc⟩
  | cons hc _ => exact ⟨_, _, rfl, hc⟩
  | separated hc _ => exact ⟨_, _, rfl, hc⟩

theorem IsNumeral.exists_last {cs : List Char} (h : IsNumeral cs) :
    ∃ front c, cs = front ++ [c] ∧ IsDigit c := by
  induction h with
  | digit hc => exact ⟨[], _, rfl, hc⟩
  | @cons c cs _ _ ih =>
    obtain ⟨front, d, rfl, hd⟩ := ih
    exact ⟨c :: front, d, rfl, hd⟩
  | @separated c cs _ _ ih =>
    obtain ⟨front, d, rfl, hd⟩ := ih
    exact ⟨c :: '_' :: front, d, rfl, hd⟩

theorem not_isNumeral_nil : ¬ IsNumeral [] := nofun

theorem not_isNumeral_underscore {cs : List Char} : ¬ IsNumeral ('_' :: cs) := by
  intro h
  obtain ⟨c, rest, heq, hc⟩ := h.exists_head
  obtain ⟨rfl, -⟩ := List.cons.inj heq
  exact hc.ne_underscore rfl

/-- What may follow a digit of a numeral: nothing, a numeral, or an underscore and a numeral. -/
def MayFollowDigit (cs : List Char) : Prop :=
  cs = [] ∨ IsNumeral cs ∨ ∃ rest, cs = '_' :: rest ∧ IsNumeral rest

theorem isNumeral_cons_iff {c : Char} {cs : List Char} (h : IsDigit c) :
    IsNumeral (c :: cs) ↔ MayFollowDigit cs := by
  constructor
  · intro hcs
    cases hcs with
    | digit _ => exact .inl rfl
    | cons _ hcs => exact .inr (.inl hcs)
    | separated _ hcs => exact .inr (.inr ⟨_, rfl, hcs⟩)
  · rintro (rfl | hcs | ⟨rest, rfl, hcs⟩)
    · exact .digit h
    · exact .cons h hcs
    · exact .separated h hcs

/-- The scan of a run keeps track of whether a digit precedes, so both states are settled in one
induction. -/
theorem isSeparated_iff {cs : List Char} (h : ∀ c ∈ cs, inNumeral c = true) :
    (isSeparated true cs = true ↔ MayFollowDigit cs) ∧
      (isSeparated false cs = true ↔ IsNumeral cs) := by
  induction cs with
  | nil => simp [isSeparated, MayFollowDigit, not_isNumeral_nil]
  | cons c cs ih =>
    obtain ⟨htrue, hfalse⟩ := ih fun d hd => h d (List.mem_cons_of_mem c hd)
    by_cases hc : c = '_'
    · subst hc
      simp only [isSeparated, if_true, Bool.true_and, Bool.false_and, hfalse]
      constructor
      · simp [MayFollowDigit, not_isNumeral_underscore]
      · simp [not_isNumeral_underscore]
    · have hdigit : IsDigit c := by
        have hin := h c List.mem_cons_self
        simp only [inNumeral, hc, decide_false, Bool.false_or] at hin
        exact hin
      -- after a digit a further digit is no underscore, so it starts a numeral
      have hfollow : MayFollowDigit (c :: cs) ↔ IsNumeral (c :: cs) := by
        simp [MayFollowDigit, hc]
      simp only [isSeparated, if_neg hc, htrue, hfollow, isNumeral_cons_iff hdigit, and_self]

/-! ### Reading -/

theorem readNatural_eq (cs : List Char) :
    readNatural cs =
      if !isSeparated false (cs.takeWhile inNumeral) then .error .notANumber
      else if digitLimit < (numeralValues (cs.takeWhile inNumeral)).length then
        .error (.tooManyDigits (numeralValues (cs.takeWhile inNumeral)).length)
      else if cs.dropWhile inNumeral = [] then
        .ok (ofDigitValues (numeralValues (cs.takeWhile inNumeral)))
      else .error .notANumber := rfl

theorem readNatural_eq_ok_iff {cs : List Char} {n : Nat} :
    readNatural cs = .ok n ↔
      IsNumeral cs ∧ (numeralValues cs).length ≤ digitLimit ∧
        n = ofDigitValues (numeralValues cs) := by
  rw [readNatural_eq]
  by_cases hrest : cs.dropWhile inNumeral = []
  · have hall : ∀ c ∈ cs, inNumeral c = true := List.dropWhile_eq_nil_iff.1 hrest
    rw [List.takeWhile_eq_self_iff.2 hall, ← (isSeparated_iff hall).2]
    cases isSeparated false cs with
    | false => simp
    | true =>
      by_cases hlimit : digitLimit < (numeralValues cs).length
      · simp [hlimit, Nat.not_le.2 hlimit]
      · simp [hlimit, hrest, Nat.not_lt.1 hlimit, eq_comm]
  · constructor
    · intro h
      split at h
      · cases h
      · split at h <;> cases h
    · rintro ⟨hcs, -, -⟩
      exact absurd (List.dropWhile_eq_nil_iff.2 hcs.all_inNumeral) hrest

/-- The text without white space at its end, if its last character is none. -/
theorem dropEndWhile_append {p : Char → Bool} {front blanks : List Char} {c : Char}
    (hc : p c = false) (hblanks : ∀ b ∈ blanks, p b = true) :
    dropEndWhile p (front ++ [c] ++ blanks) = front ++ [c] := by
  unfold dropEndWhile
  have hdrop : (front ++ [c] ++ blanks).reverse.dropWhile p = c :: front.reverse := by
    rw [List.reverse_append, List.dropWhile_append_of_pos (by simpa using hblanks)]
    simp [hc]
  rw [hdrop]
  simp

/-- What `dropEndWhile` drops is white space. -/
theorem exists_dropEndWhile (p : Char → Bool) (cs : List Char) :
    ∃ blanks, cs = dropEndWhile p cs ++ blanks ∧ ∀ b ∈ blanks, p b = true := by
  refine ⟨(cs.reverse.takeWhile p).reverse, ?_, ?_⟩
  · unfold dropEndWhile
    rw [← List.reverse_append, List.takeWhile_append_dropWhile, List.reverse_reverse]
  · intro b hb
    exact List.mem_takeWhile_imp (List.mem_reverse.1 hb)

theorem IsNumeral.dropEndWhile_append {numeral after : List Char} (h : IsNumeral numeral)
    (hafter : ∀ c ∈ after, isNumberBlank c = true) :
    dropEndWhile isNumberBlank (numeral ++ after) = numeral := by
  obtain ⟨front, c, rfl, hc⟩ := h.exists_last
  exact Number.dropEndWhile_append hc.not_isNumberBlank hafter

/-- The sign of a number, and what it makes of the number that follows it. -/
inductive IsSign : List Char → (Nat → Int) → Prop where
  | none : IsSign [] fun n => n
  | plus : IsSign ['+'] fun n => n
  | minus : IsSign ['-'] fun n => -n

/-- A text stands for a whole number: it is a numeral of at most `digitLimit` digits, with a sign
or without and with white space around it, whose digits and sign give the number. -/
def Denotes (s : String) (n : Int) : Prop :=
  ∃ before sign value numeral after, s.toList = before ++ (sign ++ (numeral ++ after)) ∧
    (∀ c ∈ before, isNumberBlank c = true) ∧ (∀ c ∈ after, isNumberBlank c = true) ∧
    IsSign sign value ∧ IsNumeral numeral ∧ (numeralValues numeral).length ≤ digitLimit ∧
    n = value (ofDigitValues (numeralValues numeral))

/-- **What is read as a whole number.**  Exactly the texts that stand for one are read, as what
they stand for. -/
theorem readDecimal_eq_ok_iff {s : String} {n : Int} :
    readDecimal s = .ok n ↔ Denotes s n := by
  constructor
  · intro h
    have htext : s.toList = s.toList.takeWhile isNumberBlank ++ s.toList.dropWhile isNumberBlank :=
      List.takeWhile_append_dropWhile.symm
    have hbefore : ∀ c ∈ s.toList.takeWhile isNumberBlank, isNumberBlank c = true :=
      fun c hc => List.mem_takeWhile_imp hc
    unfold readDecimal at h
    dsimp only at h
    split at h
    all_goals
      rename_i hrest
      obtain ⟨_, hmagnitude, rfl⟩ := Outcome.map_eq_ok_iff.1 h
      obtain ⟨k, hk, hint⟩ := Outcome.bind_eq_ok_iff.1 hmagnitude
      obtain rfl := Except.ok.inj hint
      obtain ⟨hnumeral, hlength, rfl⟩ := readNatural_eq_ok_iff.1 hk
    · rename_i rest
      obtain ⟨after, hafter, hblank⟩ := exists_dropEndWhile isNumberBlank rest
      have htail : s.toList.dropWhile isNumberBlank =
          ['-'] ++ (dropEndWhile isNumberBlank rest ++ after) := by
        rw [hrest, ← hafter]
        rfl
      exact ⟨_, _, _, _, after, htext.trans (congrArg _ htail), hbefore, hblank, .minus, hnumeral,
        hlength, rfl⟩
    · rename_i rest
      obtain ⟨after, hafter, hblank⟩ := exists_dropEndWhile isNumberBlank rest
      have htail : s.toList.dropWhile isNumberBlank =
          ['+'] ++ (dropEndWhile isNumberBlank rest ++ after) := by
        rw [hrest, ← hafter]
        rfl
      exact ⟨_, _, _, _, after, htext.trans (congrArg _ htail), hbefore, hblank, .plus, hnumeral,
        hlength, rfl⟩
    · obtain ⟨after, hafter, hblank⟩ :=
        exists_dropEndWhile isNumberBlank (s.toList.dropWhile isNumberBlank)
      exact ⟨_, _, _, _, after, htext.trans (congrArg _ hafter), hbefore, hblank, .none, hnumeral,
        hlength, rfl⟩
  · rintro ⟨before, sign, value, numeral, after, htext, hbefore, hafter, hsign, hnumeral, hlength,
      rfl⟩
    have hread : readNatural (dropEndWhile isNumberBlank (numeral ++ after)) =
        .ok (ofDigitValues (numeralValues numeral)) := by
      rw [hnumeral.dropEndWhile_append hafter]
      exact readNatural_eq_ok_iff.2 ⟨hnumeral, hlength, rfl⟩
    obtain ⟨c, rest, rfl, hc⟩ := hnumeral.exists_head
    unfold readDecimal
    rw [htext, List.dropWhile_append_of_pos hbefore]
    cases hsign with
    | none =>
      rw [List.nil_append, List.cons_append,
        List.dropWhile_cons_of_neg (by simp [hc.not_isNumberBlank])]
      dsimp only
      split
      · rename_i heq
        exact absurd (List.cons.inj heq).1 hc.ne_minus
      · rename_i heq
        exact absurd (List.cons.inj heq).1 hc.ne_plus
      · rw [← List.cons_append, hread]
        rfl
    | plus =>
      rw [List.singleton_append, List.dropWhile_cons_of_neg (by decide)]
      dsimp only
      split
      · rename_i heq
        exact absurd (List.cons.inj heq).1 (by decide)
      · rename_i heq
        obtain ⟨-, rfl⟩ := List.cons.inj heq
        rw [hread]
        rfl
      · rename_i hplus
        exact absurd rfl (hplus _)
    | minus =>
      rw [List.singleton_append, List.dropWhile_cons_of_neg (by decide)]
      dsimp only
      split
      · rename_i heq
        obtain ⟨-, rfl⟩ := List.cons.inj heq
        rw [hread]
        rfl
      · rename_i heq
        exact absurd (List.cons.inj heq).1 (by decide)
      · rename_i hminus _
        exact absurd rfl (hminus _)

end SuiteCompiler.Number
