/-
  SuiteCompiler/Proofs/Lines.lean
  ===============================
  Texts as lines.

  Generated source is put together in two ways: templates end every line that they
  write, and joins put a line feed between two pieces.  Either way a text is made of
  the lines that were written (`MadeOf`), and a reader finds these lines again if none
  of them has a line feed of its own (`MadeOf.lines_eq`).
-/
import SuiteCompiler.Text.Lines

namespace SuiteCompiler.Text

/-! ### Pieces -/

theorem mem_of_mem_splitAt {mark c : Char} {cs piece : List Char}
    (hpiece : piece ∈ splitAt mark cs) (hc : c ∈ piece) : c ∈ cs := by
  induction cs generalizing piece with
  | nil =>
    obtain rfl := List.mem_singleton.1 hpiece
    exact hc
  | cons d cs ih =>
    by_cases hd : d = mark
    · rw [splitAt, if_pos hd] at hpiece
      rcases List.mem_cons.1 hpiece with rfl | hpiece
      · cases hc
      · exact List.mem_cons_of_mem d (ih hpiece hc)
    · obtain ⟨first, pieces, hpieces⟩ := List.exists_cons_of_ne_nil (splitAt_ne_nil mark cs)
      rw [hpieces] at ih
      simp only [splitAt, if_neg hd, hpieces] at hpiece
      rcases List.mem_cons.1 hpiece with rfl | hpiece
      · rcases List.mem_cons.1 hc with rfl | hc
        · exact List.mem_cons_self
        · exact List.mem_cons_of_mem d (ih List.mem_cons_self hc)
      · exact List.mem_cons_of_mem d (ih (List.mem_cons_of_mem first hpiece) hc)

theorem notMem_of_mem_splitAt {mark : Char} {cs piece : List Char}
    (h : piece ∈ splitAt mark cs) : mark ∉ piece := by
  induction cs generalizing piece with
  | nil =>
    obtain rfl := List.mem_singleton.1 h
    exact List.not_mem_nil
  | cons c cs ih =>
    obtain ⟨first, pieces, hpieces⟩ := List.exists_cons_of_ne_nil (splitAt_ne_nil mark cs)
    rw [hpieces] at ih
    by_cases hc : c = mark
    · simp only [splitAt, if_pos hc, hpieces] at h
      rcases List.mem_cons.1 h with rfl | h
      · exact List.not_mem_nil
      · exact ih h
    · simp only [splitAt, if_neg hc, hpieces] at h
      rcases List.mem_cons.1 h with rfl | h
      · intro hmark
        rcases List.mem_cons.1 hmark with hmark | hmark
        · exact hc hmark.symm
        · exact ih List.mem_cons_self hmark
      · exact ih (List.mem_cons_of_mem first h)

theorem splitAt_intercalate {mark : Char} {pieces : List (List Char)} (hne : pieces ≠ [])
    (h : ∀ piece ∈ pieces, mark ∉ piece) :
    splitAt mark ([mark].intercalate pieces) = pieces := by
  induction pieces with
  | nil => exact absurd rfl hne
  | cons piece pieces ih =>
    have hpiece := splitAt_of_notMem (h piece List.mem_cons_self)
    cases pieces with
    | nil => simpa [List.intercalate] using hpiece
    | cons next pieces =>
      have hrest := ih (List.cons_ne_nil next pieces) fun p hp => h p (List.mem_cons_of_mem piece hp)
      rw [List.intercalate_cons_cons, List.append_assoc, List.singleton_append,
        splitAt_append_mark, hpiece, hrest]
      rfl

/-! ### Texts of one line -/

/-- A text has no line feed. -/
def OneLine (s : String) : Prop := '\n' ∉ s.toList

instance (s : String) : Decidable (OneLine s) := inferInstanceAs (Decidable (¬ _))

/-- A literal is best decided by its characters. -/
theorem oneLine_ofList {cs : List Char} : OneLine (String.ofList cs) ↔ '\n' ∉ cs := by
  simp [OneLine]

@[simp] theorem oneLine_append {a b : String} : OneLine (a ++ b) ↔ OneLine a ∧ OneLine b := by
  simp [OneLine]

/-- A value, and the literal that a template has after it. -/
theorem OneLine.fill {text value : String} {cs : List Char} (h : OneLine text)
    (hvalue : OneLine value) (hline : '\n' ∉ cs) :
    OneLine (text ++ value ++ String.ofList cs) :=
  oneLine_append.2 ⟨oneLine_append.2 ⟨h, hvalue⟩, oneLine_ofList.2 hline⟩

theorem oneLine_intercalate {separator : String} (hs : OneLine separator) {xs : List String}
    (h : ∀ s ∈ xs, OneLine s) : OneLine (separator.intercalate xs) := by
  induction xs with
  | nil => simp [OneLine]
  | cons a xs ih =>
    have ha := h a List.mem_cons_self
    have hxs := ih fun s hs => h s (List.mem_cons_of_mem a hs)
    cases xs with
    | nil => simpa using ha
    | cons b xs =>
      rw [String.intercalate_cons_cons]
      exact oneLine_append.2 ⟨oneLine_append.2 ⟨ha, hs⟩, hxs⟩

/-! ### Starts of texts -/

/-- A text starts with another. -/
def Starts (start s : String) : Prop := start.toList <+: s.toList

instance (start s : String) : Decidable (Starts start s) :=
  inferInstanceAs (Decidable (_ <+: _))

theorem Starts.append {start s : String} (h : Starts start s) (rest : String) :
    Starts start (s ++ rest) := by
  rw [Starts, String.toList_append]
  exact h.trans (List.prefix_append _ _)

theorem starts_ofList {start cs : List Char} :
    Starts (String.ofList start) (String.ofList cs) ↔ start <+: cs := by
  simp [Starts]

theorem starts_append_left {a start s : String} : Starts (a ++ start) (a ++ s) ↔ Starts start s := by
  simp [Starts, List.prefix_append_right_inj]

/-! ### Lines -/

theorem lines_of_oneLine {s : String} (h : OneLine s) : lines s = [s] := by
  simp [lines, split, splitAt_of_notMem h]

/-- A line feed separates the lines before it from those after it. -/
theorem lines_append_newline (a b : String) : lines (a ++ "\n" ++ b) = lines a ++ lines b := by
  have htext : (a ++ "\n" ++ b).toList = a.toList ++ '\n' :: b.toList := by simp
  simp [lines, split, htext, splitAt_append_mark]

/-- The lines of pieces that are joined, of which no pieces at all leave one, an empty one. -/
def joined : List (List String) → List String
  | [] => [""]
  | piece :: pieces => (piece :: pieces).flatten

theorem joined_map {α : Type} {xs : List α} (hne : xs ≠ []) (f : α → List String) :
    joined (xs.map f) = xs.flatMap f := by
  cases xs with
  | nil => exact absurd rfl hne
  | cons x xs =>
    rw [List.flatMap_def]
    rfl

theorem flatMap_lines_of_oneLine {xs : List String} (h : ∀ s ∈ xs, OneLine s) :
    xs.flatMap lines = xs := by
  induction xs with
  | nil => rfl
  | cons a xs ih =>
    rw [List.flatMap_cons, lines_of_oneLine (h a List.mem_cons_self),
      ih fun s hs => h s (List.mem_cons_of_mem a hs), List.singleton_append]

/-- Lines, each with a line feed at its end. -/
def block : List String → String
  | [] => ""
  | a :: xs => a ++ "\n" ++ block xs

theorem lines_block_append (xs : List String) (s : String) :
    lines (block xs ++ s) = xs.flatMap lines ++ lines s := by
  induction xs with
  | nil => simp [block]
  | cons a xs ih =>
    rw [block, String.append_assoc, lines_append_newline, ih, List.flatMap_cons,
      List.append_assoc]

/-- After its last line feed a block has one more line, an empty one. -/
theorem lines_block (xs : List String) : lines (block xs) = xs.flatMap lines ++ [""] := by
  have h := lines_block_append xs ""
  rwa [String.append_empty, show lines "" = [""] from rfl] at h

theorem block_append (xs ys : List String) : block (xs ++ ys) = block xs ++ block ys := by
  induction xs with
  | nil => simp [block]
  | cons a xs ih => simp only [List.cons_append, block, ih, String.append_assoc]

theorem block_cons_ne_empty (a : String) (xs : List String) : block (a :: xs) ≠ "" := by
  rw [block, ne_eq, String.append_eq_empty_iff, String.append_eq_empty_iff]
  exact fun h => absurd h.1.2 (by decide)

/-! ### Texts made of lines -/

/-- A text is put together of lines, with a line feed between each two.  The lines are told by what
they were when they were written: one of them may have a line feed itself. -/
def MadeOf (s : String) (xs : List String) : Prop := s ++ "\n" = block xs

namespace MadeOf

/-- A reader finds the lines of each of them. -/
theorem lines_eq_flatMap {s : String} {xs : List String} (h : MadeOf s xs) :
    lines s = xs.flatMap lines := by
  have hends : lines (s ++ "\n") = lines s ++ [""] := by
    have h := lines_append_newline s ""
    rwa [String.append_empty, show lines "" = [""] from rfl] at h
  rw [h, lines_block] at hends
  exact (List.append_cancel_right hends).symm

/-- Lines without line feeds are read back. -/
theorem lines_eq {s : String} {xs : List String} (h : MadeOf s xs) (hline : ∀ l ∈ xs, OneLine l) :
    lines s = xs := h.lines_eq_flatMap.trans (flatMap_lines_of_oneLine hline)

theorem singleton (s : String) : MadeOf s [s] := by simp [MadeOf, block]

theorem cons {s a : String} {xs : List String} (h : MadeOf s xs) : MadeOf (a ++ "\n" ++ s) (a :: xs) := by
  unfold MadeOf at h ⊢
  rw [block, ← h, String.append_assoc]

theorem intercalate {xs : List String} (hne : xs ≠ []) : MadeOf ("\n".intercalate xs) xs := by
  induction xs with
  | nil => exact absurd rfl hne
  | cons a xs ih =>
    cases xs with
    | nil => exact singleton a
    | cons b xs =>
      rw [String.intercalate_cons_cons]
      exact cons (ih (by simp))

/-- Texts are joined with a line feed, their lines with nothing. -/
theorem joined {texts : List String} {pieces : List (List String)}
    (h : texts.map (· ++ "\n") = pieces.map block) :
    MadeOf ("\n".intercalate texts) (joined pieces) := by
  cases pieces with
  | nil =>
    obtain rfl := List.map_eq_nil_iff.1 h
    rfl
  | cons piece pieces =>
    change MadeOf _ (piece :: pieces).flatten
    induction pieces generalizing piece texts with
    | nil =>
      obtain ⟨a, rfl⟩ := List.length_eq_one_iff.1 (by simpa using congrArg List.length h)
      have ha : MadeOf a piece := List.head_eq_of_cons_eq h
      simpa using ha
    | cons next pieces ih =>
      obtain ⟨a, rest, rfl, ha, hrest⟩ := List.map_eq_cons_iff.1 h
      obtain ⟨b, rest', rfl, hb, -⟩ := List.map_eq_cons_iff.1 hrest
      have htail := ih next hrest
      unfold MadeOf at htail ⊢
      rw [String.intercalate_cons_cons, String.append_assoc, htail, ha]
      simp only [List.flatten_cons, block_append]

/-- A body with a line before it and one after it. -/
theorem around {body : String} {ls : List String} (h : MadeOf body ls) (head close : String) :
    MadeOf (block [head, body, close]) (head :: (ls ++ [close, ""])) := by
  unfold MadeOf at h ⊢
  simp only [block, block_append, ← h, String.append_assoc, String.append_empty,
    String.empty_append]

end MadeOf

theorem forall_mem_joined {P : String → Prop} (hempty : P "") {α : Type} {f : α → List String}
    {xs : List α} (h : ∀ x ∈ xs, ∀ l ∈ f x, P l) : ∀ l ∈ joined (xs.map f), P l := by
  cases xs with
  | nil => simpa [joined] using hempty
  | cons x xs =>
    intro l hl
    rw [joined_map (List.cons_ne_nil x xs)] at hl
    obtain ⟨y, hy, hl⟩ := List.mem_flatMap.1 hl
    exact h y hy l hl

end SuiteCompiler.Text
