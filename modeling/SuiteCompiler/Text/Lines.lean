/-
  SuiteCompiler/Text/Lines.lean
  =============================
  Cutting a text at every occurrence of a character, and the two conventions on
  line ends: generated source has `\n` only, and a document that is read has its
  `\r\n` and `\r` replaced by `\n` first.

  The pieces with the mark between them give the text back (`intercalate_splitAt`),
  and a mark separates the pieces before it from those after it
  (`splitAt_append_mark`).
-/

namespace SuiteCompiler.Text

/-- The pieces between the occurrences of `mark`, of which there is always one more than
occurrences. -/
def splitAt (mark : Char) : List Char → List (List Char)
  | [] => [[]]
  | c :: cs =>
    if c = mark then [] :: splitAt mark cs
    else
      match splitAt mark cs with
      | piece :: pieces => (c :: piece) :: pieces
      | [] => [[c]]

theorem splitAt_ne_nil (mark : Char) (cs : List Char) : splitAt mark cs ≠ [] := by
  cases cs with
  | nil => simp [splitAt]
  | cons c cs =>
    by_cases h : c = mark
    · simp [splitAt, h]
    · simp only [splitAt, h, if_false]
      split <;> simp

/-- A text without the mark is one piece. -/
theorem splitAt_of_notMem {mark : Char} {cs : List Char} (h : mark ∉ cs) :
    splitAt mark cs = [cs] := by
  induction cs with
  | nil => rfl
  | cons c cs ih =>
    have hc : c ≠ mark := fun e => h (e ▸ List.mem_cons_self)
    have hcs : mark ∉ cs := fun e => h (List.mem_cons_of_mem c e)
    simp [splitAt, hc, ih hcs]

/-- The mark separates the pieces before it from those after it. -/
theorem splitAt_append_mark (mark : Char) (before after : List Char) :
    splitAt mark (before ++ mark :: after) = splitAt mark before ++ splitAt mark after := by
  induction before with
  | nil => simp [splitAt]
  | cons c cs ih =>
    by_cases h : c = mark
    · simp [splitAt, h, ih]
    · obtain ⟨piece, pieces, hp⟩ := List.exists_cons_of_ne_nil (splitAt_ne_nil mark cs)
      simp [splitAt, h, ih, hp]

/-- The pieces hold everything but the marks. -/
theorem intercalate_splitAt (mark : Char) (cs : List Char) :
    [mark].intercalate (splitAt mark cs) = cs := by
  induction cs with
  | nil => rfl
  | cons c cs ih =>
    obtain ⟨piece, pieces, hp⟩ := List.exists_cons_of_ne_nil (splitAt_ne_nil mark cs)
    rw [hp] at ih
    by_cases h : c = mark
    · subst h
      simp only [splitAt, if_true, hp]
      rw [List.intercalate_cons_cons, ih]
      rfl
    · simp only [splitAt, h, if_false, hp]
      cases pieces with
      | nil => simpa [List.intercalate] using ih
      | cons p ps =>
        rw [List.intercalate_cons_cons] at ih ⊢
        rw [← ih]
        rfl

/-- `splitAt` on strings. -/
def split (mark : Char) (s : String) : List String :=
  (splitAt mark s.toList).map String.ofList

/-- The lines of a text: the pieces between its line feeds. -/
def lines (s : String) : List String := split '\n' s

/-- Line ends as `\n`: a carriage return is one, alone or before a line feed. -/
def normalizeNewlines : List Char → List Char
  | [] => []
  | '\r' :: '\n' :: rest => '\n' :: normalizeNewlines rest
  | '\r' :: rest => '\n' :: normalizeNewlines rest
  | c :: rest => c :: normalizeNewlines rest

end SuiteCompiler.Text
