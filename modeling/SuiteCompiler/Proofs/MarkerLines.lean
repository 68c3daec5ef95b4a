/-
  SuiteCompiler/Proofs/MarkerLines.lean
  =====================================
  The lines that are read as markers.

  `parse_eq_some_iff` gives the grammar: the label and three ids with colons between
  them, with white space around the whole, where no id has a colon or white space in
  it.  So the marker line of a command with such ids is read back as it was written
  (`parse_line`), and a line that starts with something else is no marker, whatever
  comes after (`parse_eq_none_of_starts`).
-/
import Mathlib.Data.List.Basic
import Mathlib.Data.List.TakeWhile
import SuiteCompiler.Generation.Marker
import SuiteCompiler.Proofs.Lines

namespace SuiteCompiler

open Text

/-- The marker that stands for a command. -/
def Command.marker (c : Command) : Marker := ⟨c.groupId.display, c.testId.display, c.id⟩

namespace Marker

/-- A text that can be an id of a marker: it has no colon and no white space. -/
def IsId (s : String) : Prop := ∀ c ∈ s.toList, isIdChar c = true

instance (s : String) : Decidable (IsId s) :=
  decidable_of_iff (s.toList.all isIdChar = true) List.all_eq_true

/-- The ids of a marker have no colon and no white space. -/
structure IsReadable (m : Marker) : Prop where
  groupId : IsId m.groupId
  testId : IsId m.testId
  commandId : IsId m.commandId

theorem not_isIdChar_of_isBlank {c : Char} (h : isBlank c = true) : isIdChar c = false := by
  simp [isIdChar, h]

theorem isId_ofList {cs : List Char} : IsId (String.ofList cs) ↔ ∀ c ∈ cs, isIdChar c = true := by
  simp [IsId]

theorem IsId.oneLine {s : String} (h : IsId s) : OneLine s := by
  intro hnewline
  exact absurd (h '\n' hnewline) (by decide)

/-! ### Reading -/

theorem readId_eq_some_iff {cs id rest : List Char} :
    readId cs = some (id, rest) ↔ cs = id ++ ':' :: rest ∧ ∀ c ∈ id, isIdChar c = true := by
  constructor
  · intro h
    unfold readId at h
    split at h
    · rename_i tail htail
      obtain ⟨rfl, rfl⟩ := Prod.mk.inj (Option.some.inj h)
      refine ⟨?_, fun c hc => List.mem_takeWhile_imp hc⟩
      rw [← htail]
      exact List.takeWhile_append_dropWhile.symm
    · cases h
  · rintro ⟨rfl, hid⟩
    have hcolon : isIdChar ':' = false := by decide
    have hdrop : (id ++ ':' :: rest).dropWhile isIdChar = ':' :: rest := by
      rw [List.dropWhile_append_of_pos hid, List.dropWhile_cons_of_neg (by simp [hcolon])]
    have htake : (id ++ ':' :: rest).takeWhile isIdChar = id := by
      rw [List.takeWhile_append_of_pos hid, List.takeWhile_cons_of_neg (by simp [hcolon]),
        List.append_nil]
    unfold readId
    rw [hdrop, htake]
    rfl

theorem label_toList : label.toList = '/' :: "/ COMMAND_ID: ".toList := by decide

/-- A label after white space is what is left without the white space. -/
theorem dropWhile_isBlank_label {before rest : List Char} (h : ∀ c ∈ before, isBlank c = true) :
    (before ++ (label.toList ++ rest)).dropWhile isBlank = label.toList ++ rest := by
  rw [List.dropWhile_append_of_pos h, label_toList, List.cons_append,
    List.dropWhile_cons_of_neg (by decide)]

/-- **The grammar of markers.** -/
theorem parse_eq_some_iff {s : String} {m : Marker} :
    parse s = some m ↔ ∃ before after, s.toList = before ++ (label.toList ++
      (m.groupId.toList ++ ':' :: (m.testId.toList ++ ':' :: (m.commandId.toList ++ after)))) ∧
      (∀ c ∈ before, isBlank c = true) ∧ (∀ c ∈ after, isBlank c = true) ∧ m.IsReadable := by
  constructor
  · intro h
    unfold parse at h
    simp only [Option.bind_eq_bind, Option.bind_eq_some_iff] at h
    obtain ⟨rest, hrest, ⟨groupId, rest'⟩, hgroup, ⟨testId, rest''⟩, htest, h⟩ := h
    have hlabel := List.isPrefixOf?_eq_some_iff_append_eq.1 hrest
    obtain ⟨rfl, hgroupId⟩ := readId_eq_some_iff.1 hgroup
    obtain ⟨rfl, htestId⟩ := readId_eq_some_iff.1 htest
    split at h
    · rename_i hafter
      obtain rfl := Option.some.inj h
      refine ⟨s.toList.takeWhile isBlank, rest''.dropWhile isIdChar, ?_,
        fun c hc => List.mem_takeWhile_imp hc, List.all_eq_true.1 hafter, ?_⟩
      · simp only [String.toList_ofList]
        rw [List.takeWhile_append_dropWhile, hlabel, List.takeWhile_append_dropWhile]
      · exact ⟨isId_ofList.2 hgroupId, isId_ofList.2 htestId,
          isId_ofList.2 fun c hc => List.mem_takeWhile_imp hc⟩
    · cases h
  · rintro ⟨before, after, htext, hbefore, hafter, hreadable⟩
    have hdrop : s.toList.dropWhile isBlank = label.toList ++ (m.groupId.toList ++
        ':' :: (m.testId.toList ++ ':' :: (m.commandId.toList ++ after))) := by
      rw [htext]
      exact dropWhile_isBlank_label hbefore
    have hend : after.dropWhile isIdChar = after ∧ after.takeWhile isIdChar = [] := by
      cases after with
      | nil => exact ⟨rfl, rfl⟩
      | cons c after =>
        have hc := not_isIdChar_of_isBlank (hafter c List.mem_cons_self)
        exact ⟨List.dropWhile_cons_of_neg (by simp [hc]),
          List.takeWhile_cons_of_neg (by simp [hc])⟩
    have hgroup : readId (m.groupId.toList ++ ':' :: (m.testId.toList ++
        ':' :: (m.commandId.toList ++ after))) =
        some (m.groupId.toList, m.testId.toList ++ ':' :: (m.commandId.toList ++ after)) :=
      readId_eq_some_iff.2 ⟨rfl, hreadable.groupId⟩
    have htest : readId (m.testId.toList ++ ':' :: (m.commandId.toList ++ after)) =
        some (m.testId.toList, m.commandId.toList ++ after) :=
      readId_eq_some_iff.2 ⟨rfl, hreadable.testId⟩
    have hall : ((m.commandId.toList ++ after).dropWhile isIdChar).all isBlank = true := by
      rw [List.dropWhile_append_of_pos hreadable.commandId, hend.1]
      exact List.all_eq_true.2 hafter
    have hcommand : (m.commandId.toList ++ after).takeWhile isIdChar = m.commandId.toList := by
      rw [List.takeWhile_append_of_pos hreadable.commandId, hend.2, List.append_nil]
    unfold parse
    rw [hdrop, List.isPrefixOf?_eq_some_iff_append_eq.2 rfl]
    simp only [Option.bind_eq_bind, Option.bind_some, hgroup, htest, hall, if_true, hcommand,
      String.ofList_toList]

/-- A marker line is read back as the marker of its command. -/
theorem parse_line {c : Command} (h : c.marker.IsReadable) : parse (line c) = some c.marker := by
  rw [parse_eq_some_iff]
  refine ⟨"      ".toList, [], ?_, List.all_eq_true.1 (by decide), by simp, h⟩
  unfold line
  simp [Command.marker, toString]

/-! ### Other lines -/

/-- Text that no marker starts with: without the white space at its start it is no part of the
label, and the label is no part of it. -/
def RulesOut (start : List Char) : Prop :=
  ¬ start.dropWhile isBlank <+: label.toList ∧ ¬ label.toList <+: start.dropWhile isBlank

instance (start : List Char) : Decidable (RulesOut start) := inferInstanceAs (Decidable (_ ∧ _))

/-- A line that starts with something else than a marker is none, whatever comes after. -/
theorem parse_eq_none_of_starts {start : List Char} {s : String} (hrules : RulesOut start)
    (h : Starts (String.ofList start) s) : parse s = none := by
  rw [Option.eq_none_iff_forall_ne_some]
  intro m hm
  obtain ⟨before, after, htext, hbefore, -, -⟩ := parse_eq_some_iff.1 hm
  obtain ⟨rest, hrest⟩ := h
  rw [String.toList_ofList] at hrest
  have hne : start.dropWhile isBlank ≠ [] := fun hnil => hrules.1 (hnil ▸ List.nil_prefix)
  -- both are at the start of what is left of the line without the white space before it
  have hleft : start.dropWhile isBlank <+: s.toList.dropWhile isBlank := by
    rw [← hrest, List.dropWhile_append, if_neg (by simpa using hne)]
    exact List.prefix_append _ _
  have hright : label.toList <+: s.toList.dropWhile isBlank := by
    rw [htext, dropWhile_isBlank_label hbefore]
    exact List.prefix_append _ _
  rcases List.prefix_or_prefix_of_prefix hleft hright with h | h
  · exact hrules.1 h
  · exact hrules.2 h

/-- The start of a line shows that it is no marker. -/
def StartsOther (s : String) : Prop := ∃ start, RulesOut start ∧ Starts (String.ofList start) s

namespace StartsOther

theorem ofList {cs : List Char} (h : RulesOut cs) : StartsOther (String.ofList cs) :=
  ⟨cs, h, starts_ofList.2 List.prefix_rfl⟩

theorem append {s : String} (h : StartsOther s) (rest : String) : StartsOther (s ++ rest) := by
  obtain ⟨start, hrules, hstarts⟩ := h
  exact ⟨start, hrules, hstarts.append rest⟩

theorem parse {s : String} (h : StartsOther s) : parse s = none := by
  obtain ⟨start, hrules, hstarts⟩ := h
  exact parse_eq_none_of_starts hrules hstarts

end StartsOther

theorem parse_empty : parse "" = none := by decide

end Marker

end SuiteCompiler
