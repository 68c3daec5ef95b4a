/-
  SuiteCompiler/Proofs/Traceability.lean
  ======================================
  Whether a marker tells which command of a suite it was written for.

  A marker holds three ids.  The reader of documents keeps the command ids of one test
  apart, and looks at no other id: two groups may be given one id, two tests of a group
  too, and a command may name a group and a test it does not belong to.  So the commands
  of one test never share a marker, and the whole suite is free of shared markers exactly
  if its tests are, two by two (`Suite.markers_nodup_iff`).  A document whose groups have
  ids that differ, whose tests have so within their group, and whose commands leave the
  ids of their group and test to where they stand, is always free of them
  (`Suite.KeptFrom.apart`).
-/
import Mathlib.Data.List.Nodup
import SuiteCompiler.Proofs.Attribution
import SuiteCompiler.Proofs.MarkerLines

namespace SuiteCompiler

open Outcome

/-! ### The commands of a suite -/

namespace Suite

/-- The tests of a suite, disabled ones too, in order. -/
def tests (s : Suite) : List Test := s.groups.flatMap fun entry => entry.2.tests.map (·.2)

def commands (s : Suite) : List Command := s.tests.flatMap Test.commands

def markers (s : Suite) : List Marker := s.commands.map Command.marker

end Suite

/-- No command of a test has the marker of a command of another. -/
def Test.Apart (t u : Test) : Prop := ∀ c ∈ t.commands, ∀ d ∈ u.commands, c.marker ≠ d.marker

/-- The ids of a document give every command a place of its own: they differ from group to group
and, within a group, from test to test, and no record of a command names a group or a test. -/
structure Suite.NamesPlaces (v : Value) : Prop where
  groups : ((v.member "groups").members.map listedId).Nodup
  tests : ∀ group ∈ (v.member "groups").members,
    ((group.2.member "tests").members.map listedId).Nodup
  inPlace : ∀ group ∈ (v.member "groups").members, ∀ test ∈ (group.2.member "tests").members,
    ∀ command ∈ (test.2.member "commands").members,
      (command.2.member "groupId").isTruthy = false ∧ (command.2.member "testId").isTruthy = false

/-! ### What is kept of the ids -/

theorem Command.KeptFrom.marker_of_inPlace {groupId testId : String} {entry : String × Value}
    {c : Command} (h : KeptFrom groupId testId entry c)
    (hgroup : (entry.2.member "groupId").isTruthy = false)
    (htest : (entry.2.member "testId").isTruthy = false) :
    c.marker = ⟨groupId, testId, listedId entry⟩ := by
  unfold marker
  rw [h.groupId, h.testId, h.id, Value.orElse_of_not_isTruthy hgroup,
    Value.orElse_of_not_isTruthy htest]
  rfl

/-- The commands of one test have markers that differ, whatever groups and tests they name. -/
theorem Test.KeptFrom.nodup_markers {groupId : String} {entry : String × Value}
    {kept : String × Test} (h : KeptFrom groupId entry kept) :
    (kept.2.commands.map Command.marker).Nodup := by
  have hids : (kept.2.commands.map Command.marker).map Marker.commandId =
      kept.2.commands.map Command.id := by
    rw [List.map_map]
    rfl
  exact List.Nodup.of_map Marker.commandId (hids ▸ h.distinct)

theorem Test.ids_of_forall₂ {groupId : String} {fields : Fields} {tests : List (String × Test)}
    (h : List.Forall₂ (KeptFrom groupId) fields tests) :
    tests.map (fun entry => entry.2.id) = fields.map listedId :=
  map_eq_map_of_forall₂ h fun _ _ hkept => hkept.id

theorem Group.ids_of_forall₂ {fields : Fields} {groups : List (String × Group)}
    (h : List.Forall₂ KeptFrom fields groups) :
    groups.map (fun entry => entry.2.id) = fields.map listedId :=
  map_eq_map_of_forall₂ h fun _ _ hkept => hkept.id

namespace Suite

variable {v : Value} {s : Suite}

theorem exists_of_mem_tests {t : Test} (h : t ∈ s.tests) :
    ∃ group ∈ s.groups, ∃ entry ∈ group.2.tests, entry.2 = t := by
  obtain ⟨group, hgroup, h⟩ := List.mem_flatMap.1 h
  obtain ⟨entry, hentry, rfl⟩ := List.mem_map.1 h
  exact ⟨group, hgroup, entry, hentry, rfl⟩

/-- The commands of a test whose records leave group and test to their place carry the ids of
both. -/
theorem KeptFrom.marker_eq (h : KeptFrom v s) (hplaces : NamesPlaces v) {group : String × Group}
    (hgroup : group ∈ s.groups) {test : String × Test} (htest : test ∈ group.2.tests) {c : Command}
    (hc : c ∈ test.2.commands) : c.marker = ⟨group.2.id, test.2.id, c.id⟩ := by
  obtain ⟨groupRecord, hgroupRecord, hgroup⟩ := exists_of_mem_forall₂ h hgroup
  obtain ⟨testRecord, htestRecord, htest⟩ := exists_of_mem_forall₂ hgroup.tests htest
  obtain ⟨record, hrecord, hc⟩ := exists_of_mem_forall₂ htest.commands hc
  obtain ⟨hnoGroup, hnoTest⟩ :=
    hplaces.inPlace groupRecord hgroupRecord testRecord htestRecord record hrecord
  rw [hc.marker_of_inPlace hnoGroup hnoTest, hc.id]

/-- Ids that give every command a place keep the tests apart. -/
theorem KeptFrom.apart (h : KeptFrom v s) (hplaces : NamesPlaces v) :
    s.tests.Pairwise Test.Apart := by
  have hids : (s.groups.map fun group => group.2.id).Nodup := by
    rw [Group.ids_of_forall₂ h]
    exact hplaces.groups
  unfold tests
  rw [List.pairwise_flatMap]
  constructor
  · intro group hgroup
    obtain ⟨groupRecord, hgroupRecord, hkept⟩ := exists_of_mem_forall₂ h hgroup
    have htests : (group.2.tests.map fun test => test.2.id).Nodup := by
      rw [Test.ids_of_forall₂ hkept.tests]
      exact hplaces.tests groupRecord hgroupRecord
    refine List.pairwise_map.2 ((List.pairwise_map.1 htests).imp_of_mem ?_)
    intro t u ht hu hne c hc d hd hsame
    rw [h.marker_eq hplaces hgroup ht hc, h.marker_eq hplaces hgroup hu hd] at hsame
    exact hne (congrArg Marker.testId hsame)
  · refine (List.pairwise_map.1 hids).imp_of_mem ?_
    intro group other hgroup hother hne t ht u hu c hc d hd hsame
    obtain ⟨test, htest, rfl⟩ := List.mem_map.1 ht
    obtain ⟨otherTest, hotherTest, rfl⟩ := List.mem_map.1 hu
    rw [h.marker_eq hplaces hgroup htest hc, h.marker_eq hplaces hother hotherTest hd] at hsame
    exact hne (congrArg Marker.groupId hsame)

/-- The markers of a suite differ if those of different tests do. -/
theorem markers_nodup_iff (h : KeptFrom v s) :
    s.markers.Nodup ↔ s.tests.Pairwise Test.Apart := by
  have hown : ∀ t ∈ s.tests, (t.commands.map Command.marker).Nodup := by
    intro t ht
    obtain ⟨group, hgroup, entry, hentry, rfl⟩ := exists_of_mem_tests ht
    obtain ⟨groupRecord, -, hgroup⟩ := exists_of_mem_forall₂ h hgroup
    obtain ⟨testRecord, -, hentry⟩ := exists_of_mem_forall₂ hgroup.tests hentry
    exact hentry.nodup_markers
  have hapart : ∀ t u : Test, List.Disjoint (t.commands.map Command.marker)
      (u.commands.map Command.marker) ↔ t.Apart u := by
    intro t u
    rw [List.disjoint_left]
    constructor
    · intro hdisjoint c hc d hd hsame
      refine hdisjoint (List.mem_map_of_mem hc) ?_
      rw [hsame]
      exact List.mem_map_of_mem hd
    · intro hapart marker ht hu
      obtain ⟨c, hc, rfl⟩ := List.mem_map.1 ht
      obtain ⟨d, hd, hsame⟩ := List.mem_map.1 hu
      exact hapart c hc d hd hsame.symm
  unfold markers commands
  rw [List.map_flatMap, List.nodup_flatMap, and_iff_right hown]
  exact ⟨.imp fun {t u} => (hapart t u).1, .imp fun {t u} => (hapart t u).2⟩

/-! ### From a marker back to its command -/

/-- Every marker line of a suite is read as the marker of one of its commands and of no other,
wherever it stands. -/
def IsTraceable (s : Suite) : Prop :=
  ∀ i j (hi : i < s.commands.length) (hj : j < s.commands.length),
    Marker.parse (Marker.line s.commands[i]) = some s.commands[j].marker ↔ i = j

theorem isTraceable_of_nodup (hreadable : ∀ c ∈ s.commands, c.marker.IsReadable)
    (hnodup : s.markers.Nodup) : s.IsTraceable := by
  intro i j hi hj
  have hi' : i < s.markers.length := by simpa [markers] using hi
  have hj' : j < s.markers.length := by simpa [markers] using hj
  have hinj : s.markers[i] = s.markers[j] ↔ i = j := hnodup.getElem_inj_iff
  rw [Marker.parse_line (hreadable _ (List.getElem_mem hi)), Option.some_inj, ← hinj]
  simp only [markers, List.getElem_map]

/-- **When markers identify commands.**  In the suite of a document the commands of one test have
markers that differ, so all markers differ if and only if no two tests share one.  They do if the
ids of the document give every command a place of its own.  If the markers differ and can be
read, every marker line leads back to one command. -/
theorem markers_identify_commands (h : ofValue v = .ok s) :
    (s.markers.Nodup ↔ s.tests.Pairwise Test.Apart) ∧ (NamesPlaces v → s.markers.Nodup) ∧
      ((∀ c ∈ s.commands, c.marker.IsReadable) → s.markers.Nodup → s.IsTraceable) := by
  have hkept := keptFrom_of_ok h
  have hiff := markers_nodup_iff hkept
  exact ⟨hiff, fun hplaces => hiff.2 (hkept.apart hplaces), isTraceable_of_nodup⟩

/-- A document of two groups, in each a test under the key "t" with a command under the key "c".
The first group, its test and its command may have ids of their own. -/
def twinsDocument (group test command : Fields) : Value :=
  .object [("groups", .object [
    ("a", .object (group ++ [("tests", .object [
      ("t", .object (test ++ [("commands", .object [("c", .object command)])]))])])),
    ("b", .object [("tests", .object [
      ("t", .object [("commands", .object [("c", .object [])])])])])])]

theorem namesPlaces_twinsDocument : NamesPlaces (twinsDocument [] [] [("id", .int 7)]) := by
  refine ⟨by decide, ?_, ?_⟩
  · intro group hgroup
    rcases List.mem_pair.1 hgroup with rfl | rfl
    · decide
    · decide
  · intro group hgroup test htest command hcommand
    rcases List.mem_pair.1 hgroup with rfl | rfl
    · obtain rfl := List.mem_singleton.1 htest
      obtain rfl := List.mem_singleton.1 hcommand
      exact ⟨rfl, rfl⟩
    · obtain rfl := List.mem_singleton.1 htest
      obtain rfl := List.mem_singleton.1 hcommand
      exact ⟨rfl, rfl⟩

/-- Tests of two groups may share their key, and commands of two tests too. -/
theorem twins_are_traceable :
    ∃ s, ofValue (twinsDocument [] [] [("id", .int 7)]) = .ok s ∧ s.IsTraceable ∧
      s.markers = [⟨"a", "t", "7"⟩, ⟨"b", "t", "c"⟩] := by
  refine ⟨_, rfl, ?_, rfl⟩
  obtain ⟨-, hplaces, htrace⟩ :=
    markers_identify_commands (v := twinsDocument [] [] [("id", .int 7)]) rfl
  refine htrace ?_ (hplaces namesPlaces_twinsDocument)
  intro c hc
  rcases List.mem_pair.1 hc with rfl | rfl
  · exact ⟨by decide, by decide, by decide⟩
  · exact ⟨by decide, by decide, by decide⟩

/-- Two commands in different groups carry the same three ids: if the first group is given the id
of the second, or if the first command names the second group. -/
theorem twins_share_ids :
    (∃ s c d, ofValue (twinsDocument [("id", .text "b")] [] []) = .ok s ∧ s.commands = [c, d] ∧
      (c.groupId, c.testId, c.id) = (d.groupId, d.testId, d.id)) ∧
    ∃ s c d, ofValue (twinsDocument [] [] [("groupId", .text "b")]) = .ok s ∧
      s.commands = [c, d] ∧ (c.groupId, c.testId, c.id) = (d.groupId, d.testId, d.id) :=
  ⟨⟨_, _, _, rfl, rfl, rfl⟩, ⟨_, _, _, rfl, rfl, rfl⟩⟩

end Suite

end SuiteCompiler
