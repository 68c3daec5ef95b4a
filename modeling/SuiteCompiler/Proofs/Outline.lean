/-
  SuiteCompiler/Proofs/Outline.lean
  =================================
  The tree of a suite, read back from its source.

  A source has one line that opens each group and one that opens each test, and these
  lines hold the titles as JSON.  Read in order they give the outline of the suite:
  every group that has a command, followed by its tests that have one.  No command
  writes a line that could be taken for one of them, whatever texts it holds.
-/
import SuiteCompiler.Proofs.Readers
import SuiteCompiler.Proofs.RoundTrip

namespace SuiteCompiler

open Text

/-- What a block of a source holds. -/
inductive BlockKind where
  | group
  | test
  deriving DecidableEq, Repr

/-- The groups of a suite that have a command, each with its tests that have one: their titles,
in order. -/
def Suite.outline (suite : Suite) : List (BlockKind × Value) :=
  (suite.enabledGroups.filter Group.hasCommands).flatMap fun group =>
    (.group, group.title) ::
      (group.enabledTests.filter Test.hasCommands).map fun t =>
        (.test, .text s!"{t.title.display} \x7b{t.id}\x7d")

namespace Jest

open Generator

/-- The block that a line opens, and the literal of its title. -/
def blockHead? (line : String) : Option (BlockKind × String) :=
  ((between? "  describe( " ", async () => \x7b" line).map (.group, ·)).or
    ((between? "    test( " ", async () => \x7b" line).map (.test, ·))

/-- The block that a part of a suite opens. -/
def partHead? : Part → Option (BlockKind × Value)
  | .group group => some (.group, group.title)
  | .test t => some (.test, .text (testTitle t))
  | .command _ => none

theorem filterMap_partHead?_parts (suite : Suite) :
    suite.parts.filterMap partHead? = suite.outline := by
  have htest : ∀ t : Test, t.parts.filterMap partHead? = [(.test, .text (testTitle t))] := by
    intro t
    have hcommands : (t.enabledCommands.map Part.command).filterMap partHead? = [] := by
      rw [List.filterMap_map]
      exact List.filterMap_eq_nil_iff.2 fun _ _ => rfl
    change (.test, .text (testTitle t)) :: (t.enabledCommands.map Part.command).filterMap
      partHead? = _
    rw [hcommands]
  have hgroup : ∀ group : Group, group.parts.filterMap partHead? =
      (.group, group.title) ::
        (group.enabledTests.filter Test.hasCommands).map fun t => (.test, .text (testTitle t)) := by
    intro group
    change (.group, group.title) ::
      ((group.enabledTests.filter Test.hasCommands).flatMap Test.parts).filterMap partHead? = _
    rw [List.filterMap_flatMap, List.map_eq_flatMap]
    simp only [htest]
  rw [Suite.parts, List.filterMap_flatMap]
  simp only [hgroup]
  rfl

theorem skips_blockHead? {starts : List String}
    (hgroup : ∀ start ∈ starts, Apart "  describe( " start)
    (htest : ∀ start ∈ starts, Apart "    test( " start) : Skips blockHead? starts := by
  have hgroup := skips_between? ", async () => \x7b" (by decide) hgroup
  have htest := skips_between? ", async () => \x7b" (by decide) htest
  constructor
  · rw [blockHead?, hgroup.empty, htest.empty]
    rfl
  · intro start hstart l hl
    rw [blockHead?, hgroup.starting start hstart l hl, htest.starting start hstart l hl]
    rfl

theorem blockHead?_groupHead (group : Group) :
    blockHead? (groupHead group) = some (.group, group.title.script) := by
  have hliteral : between? "  describe( " ", async () => \x7b" (groupHead group) =
      some group.title.script := between?_eq_some_iff.2 rfl
  rw [blockHead?, hliteral]
  rfl

theorem blockHead?_testHead (t : Test) :
    blockHead? (testHead t) = some (.test, (Value.text (testTitle t)).script) := by
  have hgroup : Skips (between? "  describe( " ", async () => \x7b") ["    test( "] :=
    skips_between? _ (by decide) (by decide)
  have hnone : between? "  describe( " ", async () => \x7b" (testHead t) = none :=
    hgroup.fill (by decide) _ _
  have hliteral : between? "    test( " ", async () => \x7b" (testHead t) =
      some (Value.text (testTitle t)).script := between?_eq_some_iff.2 rfl
  rw [blockHead?, hnone, hliteral]
  rfl

theorem filterMap_blockHead?_partLines {g : Generator} (hschema : g.schema = schema)
    (hline : g.IsOneLine) {part : Part} (hpart : part ∈ g.suite.parts) :
    (partLines g part).filterMap blockHead? =
      (partHead? part).toList.map fun head => (head.1, head.2.script) := by
  cases part with
  | group group => exact List.filterMap_cons_some (blockHead?_groupHead group)
  | test t => exact List.filterMap_cons_some (blockHead?_testHead t)
  | command c =>
    have hsnippets : Skips blockHead? snippetStarts := skips_blockHead? (by decide) (by decide)
    have hwait : Skips blockHead? ["    await "] := skips_blockHead? (by decide) (by decide)
    have hc := Suite.mem_enabledCommands_of_mem_parts hpart
    -- a command gives no more than its waits, and these begin with white space and an `await`
    change (commandLines g c).filterMap blockHead? = []
    rw [filterMap_commandLines hsnippets hschema fun d hd hserves =>
      hline.commands d (GeneratorInput.mem_reached hc hd hserves)]
    exact filterMap_waitLines hwait g _

/-- **The source has the tree of the suite.**  The lines of a source that open a group or a test,
their titles read as JSON, are the groups and tests of the suite that have a command, in their
order; the title of a group is any value without floating-point numbers, such as a text. -/
theorem outline_reads_back {g : Generator} (hschema : g.schema = schema) (hline : g.IsOneLine)
    (htitles : ∀ group ∈ g.suite.enabledGroups, group.title.isPortable = true) {r : Fragment}
    (h : g.generate.outcome = .ok r) :
    ((lines r.text).filterMap blockHead?).map (fun head => (head.1, Value.parse head.2)) =
      g.suite.outline.map fun head => (head.1, .ok head.2) := by
  have hframe : Skips blockHead? frameStarts := skips_blockHead? (by decide) (by decide)
  have hids : Skips blockHead? ["      INTERACTIVE_IDS = "] :=
    skips_blockHead? (by decide) (by decide)
  have hcloses : Skips blockHead? closeStarts := skips_blockHead? (by decide) (by decide)
  have hheads : (lines r.text).filterMap blockHead? =
      g.suite.outline.map fun head => (head.1, head.2.script) := by
    have hidsLine : blockHead? (idsLine (g.stopIds (g.suite.encountered g.snippets))) = none :=
      hids.fill (by decide) _ _
    rw [lines_generate hschema hline h, filterMap_listing hframe, hidsLine, Option.toList_none,
      List.nil_append,
      filterMap_bodyLines hcloses fun part hpart =>
        filterMap_blockHead?_partLines hschema hline hpart,
      ← filterMap_partHead?_parts, List.filterMap_eq_flatMap_toList, List.map_flatMap]
  have hportable : ∀ head ∈ g.suite.outline, head.2.isPortable = true := by
    intro head hhead
    obtain ⟨group, hgroup, hhead⟩ := List.mem_flatMap.1 hhead
    rcases List.mem_cons.1 hhead with rfl | hhead
    · exact htitles group (List.mem_filter.1 hgroup).1
    · obtain ⟨t, -, rfl⟩ := List.mem_map.1 hhead
      rfl
  rw [hheads, List.map_map]
  refine List.map_congr_left fun head hhead => ?_
  have hparse := Value.parse_json JsonLayout.isReadable_script (hportable head hhead)
  exact congrArg (head.1, ·) hparse

/-- A suite whose titles and texts look like lines that open blocks, with a test and a group that
have no enabled command. -/
def disguisedInput : GeneratorInput where
  suite :=
    { title := .text "  describe( \"Shop\", async () => \x7b"
      targets := []
      groups := [
        ("g", {
          id := "g", title := .text "\n    test( \"Cart\", async () => \x7b", disabled := false
          tests := [
            ("t", {
              id := "t", title := .text "Empties", disabled := false
              commands := [
                { Command.acting "c1" "page" "reload" "g" "t" with disabled := true }] }),
            ("u", {
              id := "u", title := .text "Pays \"all\"", disabled := false
              commands := [
                { Command.acting "c2" "page" "assertTitle" "g" "u" with
                  assertion := some
                    [("value", .text "\n  describe( \"Cart\", async () => \x7b")] }] })] }),
        ("h", { id := "h", title := .text "Search", disabled := false, tests := [] })] }
  schema

def disguised : Generator := { disguisedInput with selectors := [], selectors_eq := rfl }

theorem outline_of_disguised :
    ∃ r, disguised.generate.outcome = .ok r ∧
      ((lines r.text).filterMap blockHead?).map (fun head => (head.1, Value.parse head.2)) =
        [(.group, .ok (.text "\n    test( \"Cart\", async () => \x7b")),
          (.test, .ok (.text "Pays \"all\" \x7bu\x7d"))] := by
  have hline : disguised.IsOneLine := by
    refine ⟨oneLine_ofList.2 (by decide), List.forall_mem_nil _, ?_⟩
    have hreached : disguised.reached = [{ Command.acting "c2" "page" "assertTitle" "g" "u" with
      assertion := some [("value", .text "\n  describe( \"Cart\", async () => \x7b")] }] := rfl
    rw [hreached, List.forall_mem_singleton]
    exact ⟨by decide, by decide, by decide, by decide⟩
  have htitles : ∀ group ∈ disguised.suite.enabledGroups, group.title.isPortable = true := by
    decide
  have hids : disguised.generate.outcome.map Fragment.interactiveIds = .ok [] := rfl
  obtain ⟨r, hr, -⟩ := Outcome.map_eq_ok_iff.1 hids
  exact ⟨r, hr, outline_reads_back rfl hline htitles hr⟩

end Jest

end SuiteCompiler
