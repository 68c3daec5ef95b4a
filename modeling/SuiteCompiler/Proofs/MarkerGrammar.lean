/-
  SuiteCompiler/Proofs/MarkerGrammar.lean
  =======================================
  The lines that hold a marker, and which one they hold.

  No id of a marker has a colon or white space in it, and the label starts with
  neither.  So a line holds one marker at most, between one stretch of white space and
  another (`HoldsMarker.unique`), and the reader finds it (`parse_iff_holdsMarker`).

  A marker line is written from ids of any kind.  The colons of a line that is read are
  the two that were written, which keeps the ids of group and test to themselves.  After
  the id of the command nothing was written: white space at its end is read as white
  space after the marker (`parse_line_eq_some_iff`), and the marker of the command is
  then that of another.
-/
import SuiteCompiler.Proofs.MarkerLines

namespace SuiteCompiler

namespace Text

/-- A text of white space, or an empty one. -/
def AllBlank (s : String) : Prop := ∀ c ∈ s.toList, isBlank c = true

theorem AllBlank.notMem {s : String} {c : Char} (h : AllBlank s) (hc : isBlank c = false) :
    c ∉ s.toList := by
  intro hmem
  rw [h c hmem] at hc
  cases hc

/-- A text that is one piece has no mark in it. -/
theorem eq_of_splitAt_eq_singleton {mark : Char} {cs piece : List Char}
    (h : splitAt mark cs = [piece]) : cs = piece := by
  rw [← intercalate_splitAt mark cs, h]
  simp [List.intercalate]

/-- Three pieces are separated by two marks, wherever these stand. -/
theorem eq_of_splitAt_eq_three {mark : Char} {as bs cs a b c : List Char}
    (h : splitAt mark (as ++ mark :: (bs ++ mark :: cs)) = [a, b, c]) :
    as = a ∧ bs = b ∧ cs = c := by
  rw [splitAt_append_mark, splitAt_append_mark] at h
  -- none of the three parts is without pieces, so each is one piece
  obtain ⟨a', as', ha⟩ := List.exists_cons_of_ne_nil (splitAt_ne_nil mark as)
  obtain ⟨b', bs', hb⟩ := List.exists_cons_of_ne_nil (splitAt_ne_nil mark bs)
  obtain ⟨c', cs', hc⟩ := List.exists_cons_of_ne_nil (splitAt_ne_nil mark cs)
  have hlength : as'.length + (bs'.length + cs'.length) = 0 := by
    have hlength := congrArg List.length h
    rw [ha, hb, hc] at hlength
    simp only [List.length_append, List.length_cons, List.length_nil] at hlength
    omega
  obtain rfl : as' = [] := List.length_eq_zero_iff.1 (by omega)
  obtain rfl : bs' = [] := List.length_eq_zero_iff.1 (by omega)
  obtain rfl : cs' = [] := List.length_eq_zero_iff.1 (by omega)
  have hpieces : [a', b', c'] = [a, b, c] := by
    rw [← h, ha, hb, hc]
    rfl
  obtain ⟨rfl, rfl, rfl⟩ : a' = a ∧ b' = b ∧ c' = c := by simpa using hpieces
  exact ⟨eq_of_splitAt_eq_singleton ha, eq_of_splitAt_eq_singleton hb,
    eq_of_splitAt_eq_singleton hc⟩

end Text

open Text

namespace Marker

/-! ### The grammar -/

/-- A line is made of a marker and white space before and after it. -/
structure HoldsMarker (s before : String) (m : Marker) (after : String) : Prop where
  text : s = before ++ label ++ m.groupId ++ ":" ++ m.testId ++ ":" ++ m.commandId ++ after
  before : AllBlank before
  after : AllBlank after
  readable : m.IsReadable

theorem HoldsMarker.toList_eq {s before after : String} {m : Marker}
    (h : HoldsMarker s before m after) : s.toList = before.toList ++ (label.toList ++
      (m.groupId.toList ++ ':' :: (m.testId.toList ++ ':' :: (m.commandId.toList ++
        after.toList)))) := by
  rw [h.text]
  simp

theorem parse_iff_holdsMarker {s : String} {m : Marker} :
    parse s = some m ↔ ∃ before after, HoldsMarker s before m after := by
  rw [parse_eq_some_iff]
  constructor
  · rintro ⟨before, after, htext, hbefore, hafter, hreadable⟩
    refine ⟨String.ofList before, String.ofList after, ?_, ?_, ?_, hreadable⟩
    · apply String.toList_injective
      rw [htext]
      simp
    · rwa [AllBlank, String.toList_ofList]
    · rwa [AllBlank, String.toList_ofList]
  · rintro ⟨before, after, h⟩
    exact ⟨before.toList, after.toList, h.toList_eq, h.before, h.after, h.readable⟩

/-- The white space before a label reaches to it. -/
theorem takeWhile_isBlank_label {before rest : List Char} (h : ∀ c ∈ before, isBlank c = true) :
    (before ++ (label.toList ++ rest)).takeWhile isBlank = before := by
  rw [List.takeWhile_append_of_pos h, label_toList, List.cons_append,
    List.takeWhile_cons_of_neg (by decide), List.append_nil]

theorem HoldsMarker.takeWhile_eq {s before after : String} {m : Marker}
    (h : HoldsMarker s before m after) : s.toList.takeWhile isBlank = before.toList := by
  rw [h.toList_eq, takeWhile_isBlank_label h.before]

theorem HoldsMarker.unique {s before before' after after' : String} {m m' : Marker}
    (h : HoldsMarker s before m after) (h' : HoldsMarker s before' m' after') :
    before = before' ∧ m = m' ∧ after = after' := by
  have hbefore : before = before' := by
    apply String.toList_injective
    rw [← h.takeWhile_eq, ← h'.takeWhile_eq]
  have hparse : parse s = some m := parse_iff_holdsMarker.2 ⟨before, after, h⟩
  have hparse' : parse s = some m' := parse_iff_holdsMarker.2 ⟨before', after', h'⟩
  obtain rfl : m = m' := Option.some.inj (hparse.symm.trans hparse')
  refine ⟨hbefore, rfl, ?_⟩
  subst hbefore
  have htext := h.text.symm.trans h'.text
  exact String.append_right_inj _ |>.1 htext

/-! ### Marker lines -/

/-- A command has the ids of a marker that can be read, but for white space at the end of its own
id. -/
structure Pads (m : Marker) (c : Command) : Prop where
  groupId : c.groupId.display = m.groupId
  testId : c.testId.display = m.testId
  commandId : ∃ blanks, blanks ≠ "" ∧ AllBlank blanks ∧ c.id = m.commandId ++ blanks
  readable : m.IsReadable

theorem Pads.ne_marker {m : Marker} {c : Command} (h : m.Pads c) : m ≠ c.marker := by
  rintro rfl
  obtain ⟨blanks, hne, -, hid⟩ := h.commandId
  exact hne (String.append_eq_left_iff.1 hid.symm)

theorem toList_line (c : Command) : (line c).toList = "      ".toList ++ (label.toList ++
    (c.groupId.display.toList ++ ':' :: (c.testId.display.toList ++ ':' :: c.id.toList))) := by
  simp [line, toString]

/-- What a marker line starts with. -/
theorem allBlank_indent : AllBlank "      " := List.all_eq_true.1 (by decide)

theorem IsId.notMem_colon {s : String} (h : IsId s) : ':' ∉ s.toList := by
  intro hcolon
  exact absurd (h ':' hcolon) (by decide)

/-- What is read from a marker line: the ids as they were written, but for white space at the end of
the last one. -/
theorem parse_line_eq_some {c : Command} {m : Marker} (h : parse (line c) = some m) :
    c.groupId.display = m.groupId ∧ c.testId.display = m.testId ∧
      (∃ blanks, AllBlank blanks ∧ c.id = m.commandId ++ blanks) ∧ m.IsReadable := by
  obtain ⟨before, after, hholds⟩ := parse_iff_holdsMarker.1 h
  have hline := hholds.toList_eq
  -- the white space before the label is that of the template
  have hbefore : before.toList = "      ".toList := by
    rw [← hholds.takeWhile_eq, toList_line, takeWhile_isBlank_label allBlank_indent]
  rw [toList_line, hbefore] at hline
  have hids := List.append_cancel_left (List.append_cancel_left hline)
  -- what is read has two colons, so these are the two that were written
  have hlast : ':' ∉ m.commandId.toList ++ after.toList := by
    rw [List.mem_append, not_or]
    exact ⟨hholds.readable.commandId.notMem_colon, hholds.after.notMem (by decide)⟩
  have hpieces : splitAt ':' (c.groupId.display.toList ++
      ':' :: (c.testId.display.toList ++ ':' :: c.id.toList)) =
        [m.groupId.toList, m.testId.toList, m.commandId.toList ++ after.toList] := by
    rw [hids, splitAt_append_mark, splitAt_append_mark,
      splitAt_of_notMem hholds.readable.groupId.notMem_colon,
      splitAt_of_notMem hholds.readable.testId.notMem_colon, splitAt_of_notMem hlast]
    rfl
  obtain ⟨hgroup, htest, hcommand⟩ := eq_of_splitAt_eq_three hpieces
  refine ⟨String.toList_injective hgroup, String.toList_injective htest,
    ⟨after, hholds.after, ?_⟩, hholds.readable⟩
  apply String.toList_injective
  rw [hcommand, String.toList_append]

/-- A marker line is read as the marker of its command, or as one that the command pads. -/
theorem parse_line_eq_some_iff {c : Command} {m : Marker} :
    parse (line c) = some m ↔ m = c.marker ∧ m.IsReadable ∨ m.Pads c := by
  constructor
  · intro h
    obtain ⟨hgroup, htest, ⟨blanks, hblanks, hid⟩, hreadable⟩ := parse_line_eq_some h
    by_cases hempty : blanks = ""
    · left
      rw [hempty, String.append_empty] at hid
      refine ⟨?_, hreadable⟩
      rw [Command.marker, hgroup, htest, hid]
    · right
      exact ⟨hgroup, htest, ⟨blanks, hempty, hblanks, hid⟩, hreadable⟩
  · rintro (⟨rfl, hreadable⟩ | hpads)
    · exact parse_line hreadable
    · obtain ⟨blanks, -, hblanks, hid⟩ := hpads.commandId
      refine parse_iff_holdsMarker.2 ⟨"      ", blanks, ?_, allBlank_indent, hblanks,
        hpads.readable⟩
      apply String.toList_injective
      rw [toList_line, hpads.groupId, hpads.testId, hid]
      simp

/-- **Reading follows the grammar.**  A line is read as a marker if it is made of one, its label
and white space around them; it is so in one way at most, and without such a way nothing is read.
So the marker line of a command is read as the marker of that command if and only if none of its
ids has a colon or white space in it. -/
theorem reading_follows_grammar (s : String) (c : Command) :
    (∀ m, parse s = some m ↔ ∃ before after, HoldsMarker s before m after) ∧
      (∀ before m after before' m' after', HoldsMarker s before m after →
        HoldsMarker s before' m' after' → before = before' ∧ m = m' ∧ after = after') ∧
      (parse s = none ↔ ¬∃ before m after, HoldsMarker s before m after) ∧
      (parse (line c) = some c.marker ↔ c.marker.IsReadable) := by
  refine ⟨fun m => parse_iff_holdsMarker, fun _ _ _ _ _ _ h h' => h.unique h', ?_, ?_⟩
  · rw [Option.eq_none_iff_forall_ne_some]
    constructor
    · rintro hnone ⟨before, m, after, h⟩
      exact hnone m (parse_iff_holdsMarker.2 ⟨before, after, h⟩)
    · intro hnot m hm
      obtain ⟨before, after, h⟩ := parse_iff_holdsMarker.1 hm
      exact hnot ⟨before, m, after, h⟩
  · constructor
    · intro h
      exact (parse_line_eq_some h).2.2.2
    · exact parse_line

/-- **Whose marker is read.**  A marker line is read as the marker of its command or not at all, if
and only if the command pads no marker; and it is read as the marker of a command with other ids if
and only if its own command pads that marker. -/
theorem line_is_its_own_iff (c : Command) :
    ((parse (line c) = none ∨ parse (line c) = some c.marker) ↔ ¬∃ m, Pads m c) ∧
      ∀ d : Command, (parse (line c) = some d.marker ∧ c.marker ≠ d.marker ↔ d.marker.Pads c) := by
  constructor
  · constructor
    · rintro hown ⟨m, hpads⟩
      have hread : parse (line c) = some m := parse_line_eq_some_iff.2 (Or.inr hpads)
      rcases hown with hnone | hown
      · rw [hread] at hnone
        cases hnone
      · exact hpads.ne_marker (Option.some.inj (hread.symm.trans hown))
    · intro hnot
      cases hread : parse (line c) with
      | none => exact Or.inl rfl
      | some m =>
        rcases parse_line_eq_some_iff.1 hread with ⟨rfl, -⟩ | hpads
        · exact Or.inr rfl
        · exact absurd ⟨m, hpads⟩ hnot
  · intro d
    constructor
    · rintro ⟨hread, hne⟩
      rcases parse_line_eq_some_iff.1 hread with ⟨hsame, -⟩ | hpads
      · exact absurd hsame.symm hne
      · exact hpads
    · intro hpads
      exact ⟨parse_line_eq_some_iff.2 (Or.inr hpads), hpads.ne_marker.symm⟩

/-- The blank at the end of an id is lost, and with it the marker of the command: the line is that
of the command without the blank. -/
theorem blank_after_id_is_lost :
    ∃ c d, Command.ofValue (.text "g") (.text "t") (.object [("id", .text "c ")]) = .ok c ∧
      Command.ofValue (.text "g") (.text "t") (.object [("id", .text "c")]) = .ok d ∧
      parse (line c) = some d.marker ∧ c.marker = ⟨"g", "t", "c "⟩ ∧
      d.marker = ⟨"g", "t", "c"⟩ :=
  ⟨_, _, rfl, rfl, by decide, by decide, by decide⟩

end Marker

end SuiteCompiler
