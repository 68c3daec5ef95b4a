/-
  SuiteCompiler/Proofs/MissedCommands.lean
  ========================================
  Commands without a renderer and references without a snippet.

  Such a command has no source of its own, but it still takes part in the join of the
  commands of its test: it leaves one empty line there.  Nothing else is known of it.
  Without the command the suite can be generated if and only if it can with it, fails
  alike if it cannot, and has the same interactive ids, and its source has one empty
  line less (`missed_command_is_one_empty_line`).  The test must have another enabled
  command: a test without any has no source at all.

  `Suite.Occurrence` is a suite around one of its commands, and `Occurrence.suiteWith`
  puts other commands in the place of that one.  Each stage is told of once for all
  such commands; the two suites are `suiteWith [c]` and `suiteWith []`.
-/
import SuiteCompiler.Proofs.Instruments
import SuiteCompiler.Proofs.Readers

namespace SuiteCompiler

open Outcome Text

/-! ### A suite around a command -/

/-- Where an enabled command stands in a suite, in an enabled test of an enabled group. -/
structure Suite.Occurrence (suite : Suite) (c : Command) where
  groupsBefore : List (String × Group)
  groupKey : String
  group : Group
  groupsAfter : List (String × Group)
  testsBefore : List (String × Test)
  testKey : String
  test : Test
  testsAfter : List (String × Test)
  before : List Command
  after : List Command
  groups_eq : suite.groups = groupsBefore ++ (groupKey, group) :: groupsAfter
  tests_eq : group.tests = testsBefore ++ (testKey, test) :: testsAfter
  commands_eq : test.commands = before ++ c :: after
  group_enabled : group.disabled = false
  test_enabled : test.disabled = false
  enabled : c.disabled = false

theorem Suite.exists_occurrence_iff {suite : Suite} {c : Command} :
    Nonempty (suite.Occurrence c) ↔ c ∈ suite.enabledCommands := by
  constructor
  · rintro ⟨o⟩
    refine List.mem_flatMap.2 ⟨o.group, ?_, List.mem_flatMap.2 ⟨o.test, ?_, ?_⟩⟩
    · simp [enabledGroups, o.groups_eq, o.group_enabled]
    · simp [Group.enabledTests, o.tests_eq, o.test_enabled]
    · simp [Test.enabledCommands, o.commands_eq, o.enabled]
  · intro h
    obtain ⟨group, hgroup, h⟩ := List.mem_flatMap.1 h
    obtain ⟨t, ht, h⟩ := List.mem_flatMap.1 h
    simp only [enabledGroups, List.mem_filter, List.mem_map] at hgroup
    simp only [Group.enabledTests, List.mem_filter, List.mem_map] at ht
    obtain ⟨⟨⟨groupKey, group⟩, hgroup, rfl⟩, hgroupEnabled⟩ := hgroup
    obtain ⟨⟨⟨testKey, test⟩, ht, rfl⟩, htestEnabled⟩ := ht
    obtain ⟨hc, hcEnabled⟩ := List.mem_filter.1 h
    obtain ⟨groupsBefore, groupsAfter, hgroups⟩ := List.append_of_mem hgroup
    obtain ⟨testsBefore, testsAfter, htests⟩ := List.append_of_mem ht
    obtain ⟨before, after, hcommands⟩ := List.append_of_mem hc
    exact ⟨{
      groupsBefore, groupKey, group, groupsAfter, testsBefore, testKey, test, testsAfter
      before, after
      groups_eq := hgroups, tests_eq := htests, commands_eq := hcommands
      group_enabled := by simpa using hgroupEnabled
      test_enabled := by simpa using htestEnabled
      enabled := by simpa using hcEnabled }⟩

namespace Suite.Occurrence

variable {suite : Suite} {c : Command} (o : suite.Occurrence c)

/-! ### What stands around the command, without what is disabled -/

def groupsAbove : List Group := (o.groupsBefore.map (·.2)).filter (!·.disabled)

def groupsBelow : List Group := (o.groupsAfter.map (·.2)).filter (!·.disabled)

def testsAbove : List Test := (o.testsBefore.map (·.2)).filter (!·.disabled)

def testsBelow : List Test := (o.testsAfter.map (·.2)).filter (!·.disabled)

def commandsAbove : List Command := o.before.filter (!·.disabled)

def commandsBelow : List Command := o.after.filter (!·.disabled)

/-- The other commands of the test. -/
def others : List Command := o.commandsAbove ++ o.commandsBelow

/-! ### Other commands in the place of the command -/

def testWith (cs : List Command) : Test :=
  { o.test with commands := o.before ++ cs ++ o.after }

def groupWith (cs : List Command) : Group :=
  { o.group with tests := o.testsBefore ++ (o.testKey, o.testWith cs) :: o.testsAfter }

def suiteWith (cs : List Command) : Suite :=
  { suite with groups := o.groupsBefore ++ (o.groupKey, o.groupWith cs) :: o.groupsAfter }

theorem suiteWith_self : o.suiteWith [c] = suite := by
  have htest : o.testWith [c] = o.test := by
    rw [testWith, List.append_assoc, List.singleton_append, ← o.commands_eq]
  have hgroup : o.groupWith [c] = o.group := by
    rw [groupWith, htest, ← o.tests_eq]
  rw [suiteWith, hgroup, ← o.groups_eq]

theorem enabledGroups_suiteWith (cs : List Command) :
    (o.suiteWith cs).enabledGroups = o.groupsAbove ++ o.groupWith cs :: o.groupsBelow := by
  simp [enabledGroups, suiteWith, groupsAbove, groupsBelow, groupWith, o.group_enabled]

theorem enabledTests_groupWith (cs : List Command) :
    (o.groupWith cs).enabledTests = o.testsAbove ++ o.testWith cs :: o.testsBelow := by
  simp [Group.enabledTests, groupWith, testsAbove, testsBelow, testWith, o.test_enabled]

section Enabled

variable {cs : List Command} (hcs : ∀ d ∈ cs, d.disabled = false)

include hcs

theorem enabledCommands_testWith :
    (o.testWith cs).enabledCommands = o.commandsAbove ++ (cs ++ o.commandsBelow) := by
  have hkept : cs.filter (!·.disabled) = cs := List.filter_eq_self.2 (by simpa using hcs)
  simp only [Test.enabledCommands, testWith, List.filter_append, hkept, commandsAbove,
    commandsBelow, List.append_assoc]

theorem hasCommands_testWith (hothers : o.others ≠ []) : (o.testWith cs).hasCommands = true := by
  have hne : (o.testWith cs).enabledCommands ≠ [] := by
    rw [o.enabledCommands_testWith hcs]
    intro hnil
    simp only [List.append_eq_nil_iff] at hnil
    exact hothers (List.append_eq_nil_iff.2 ⟨hnil.1, hnil.2.2⟩)
  simpa [Test.hasCommands] using hne

theorem hasCommands_groupWith (hothers : o.others ≠ []) : (o.groupWith cs).hasCommands = true := by
  refine List.any_eq_true.2 ⟨o.testWith cs, ?_, o.hasCommands_testWith hcs hothers⟩
  rw [o.enabledTests_groupWith]
  exact List.mem_append_right _ List.mem_cons_self

end Enabled

/-- What is put in the place of the command stands between the same commands as it. -/
theorem exists_enabledCommands : ∃ above below, ∀ cs : List Command,
    (∀ d ∈ cs, d.disabled = false) →
      (o.suiteWith cs).enabledCommands = above ++ (cs ++ below) := by
  let commandsOf : Group → List Command := fun group => group.enabledTests.flatMap Test.enabledCommands
  refine ⟨o.groupsAbove.flatMap commandsOf ++
      (o.testsAbove.flatMap Test.enabledCommands ++ o.commandsAbove),
    o.commandsBelow ++
      (o.testsBelow.flatMap Test.enabledCommands ++ o.groupsBelow.flatMap commandsOf), ?_⟩
  intro cs hcs
  simp only [enabledCommands, enabledGroups_suiteWith, enabledTests_groupWith,
    o.enabledCommands_testWith hcs, List.flatMap_append, List.flatMap_cons, List.append_assoc,
    commandsOf]

end Suite.Occurrence

/-! ### Commands that are missed -/

/-- What a command is looked up by is not there: the snippet that a reference names, or else a
renderer for its method.  A look-up that fails does not miss. -/
def GeneratorInput.Misses (input : GeneratorInput) (c : Command) : Prop :=
  if c.isRef then input.snippets.getTest? c.ref = .ok none
  else input.schema.supports c.kind c.method = .ok false

namespace GeneratorInput

variable {input : GeneratorInput} {c : Command}

theorem Misses.snippet (h : input.Misses c) (href : c.isRef = true) :
    input.snippets.getTest? c.ref = .ok none := by
  rwa [Misses, if_pos href] at h

theorem Misses.renderer (h : input.Misses c) (href : c.isRef = false) :
    input.schema.supports c.kind c.method = .ok false := by
  rwa [Misses, href, if_neg Bool.false_ne_true] at h

/-- Nothing is found by a command that misses, and all commands miss that find nothing, but for those
that are looked up by a list or an object. -/
theorem misses_iff :
    input.Misses c ↔
      if c.isRef then c.ref.IsScalar ∧ ∀ t, input.snippets.getTest? c.ref ≠ .ok (some t)
      else c.method.IsScalar ∧ input.schema.serves c = false := by
  unfold Misses
  cases c.isRef with
  | true =>
    rw [if_pos rfl, if_pos rfl]
    cases c.ref <;> simp [SnippetLibrary.getTest?, Value.IsScalar, Option.eq_none_iff_forall_ne_some]
  | false =>
    rw [if_neg Bool.false_ne_true, if_neg Bool.false_ne_true]
    unfold Schema.serves
    cases c.method <;> simp [Schema.supports, Schema.find?, Value.IsScalar, Except.map]

end GeneratorInput

namespace Generator

variable {g : Generator} {c : Command}

theorem checkCommand_of_misses (h : g.Misses c) : g.checkCommand c = .ok () := by
  unfold checkCommand
  cases href : c.isRef with
  | true => rw [if_pos rfl, h.snippet href]
  | false =>
    rw [if_neg Bool.false_ne_true, checkPlain, h.renderer href]
    rfl

theorem stopIds_of_misses (h : g.Misses c) : g.stopIds (g.snippets.expand c) = [] := by
  cases href : c.isRef with
  | true => simp [SnippetLibrary.expand, href, h.snippet href, stopIds]
  | false =>
    have hserves : g.schema.serves c = false := by rw [Schema.serves, h.renderer href]
    simp [SnippetLibrary.expand, href, hserves, stopIds]

end Generator

namespace Jest

open Generator

variable {g : Generator} {c : Command}

theorem commandLines_of_misses (h : g.Misses c) : commandLines g c = [""] := by
  unfold commandLines
  cases href : c.isRef with
  | true => rw [if_pos rfl, h.snippet href]
  | false =>
    rw [if_neg Bool.false_ne_true, plainLines, Schema.serves, h.renderer href]
    rfl

/-! ### Lines above and below a command -/

section Around

variable {suite : Suite} (o : suite.Occurrence c)

/-- The lines of the groups above a command: those of the groups before its own, of the tests before
its own, and of the commands before it. -/
def bodyAbove (g : Generator) : List String :=
  (o.groupsAbove.filter Group.hasCommands).flatMap (groupLines g) ++
    groupHead o.group :: ((o.testsAbove.filter Test.hasCommands).flatMap (testLines g) ++
      testHead o.test :: o.commandsAbove.flatMap (commandLines g))

/-- The lines of the groups below a command: those of the commands after it, of the tests after its
own, and of the groups after its own. -/
def bodyBelow (g : Generator) : List String :=
  o.commandsBelow.flatMap (commandLines g) ++
    "    \x7d);" :: "" :: ((o.testsBelow.filter Test.hasCommands).flatMap (testLines g) ++
      "  \x7d);" :: "" :: (o.groupsBelow.filter Group.hasCommands).flatMap (groupLines g))

/-- The lines of the source above a command, as they are written: a title may have line feeds. -/
def linesAbove (g : Generator) : List String :=
  headerLines g (g.stopIds (suite.encountered g.snippets)) ++
    (joined (g.resolver.declarations.map fun t => [declarationLine t]) ++
      (setupLines g ++ bodyAbove o g))

/-- The lines of the source below a command. -/
def linesBelow (g : Generator) : List String := bodyBelow o g ++ ["\x7d);", ""]

variable {cs : List Command} (hcs : ∀ d ∈ cs, d.disabled = false)

include hcs

theorem testLines_testWith (hothers : o.others ≠ []) :
    testLines g (o.testWith cs) = testHead o.test ::
      (o.commandsAbove.flatMap (commandLines g) ++ (cs.flatMap (commandLines g) ++
        (o.commandsBelow.flatMap (commandLines g) ++ ["    \x7d);", ""]))) := by
  have hne : (o.testWith cs).enabledCommands ≠ [] := by
    simpa [Test.hasCommands] using o.hasCommands_testWith hcs hothers
  have hhead : testLines g (o.testWith cs) = testHead o.test ::
    (joined ((o.testWith cs).enabledCommands.map (commandLines g)) ++ ["    \x7d);", ""]) := rfl
  rw [hhead, joined_map hne, o.enabledCommands_testWith hcs]
  simp only [List.flatMap_append, List.append_assoc]

theorem groupLines_groupWith (hothers : o.others ≠ []) :
    groupLines g (o.groupWith cs) = groupHead o.group ::
      ((o.testsAbove.filter Test.hasCommands).flatMap (testLines g) ++
        (testLines g (o.testWith cs) ++
          ((o.testsBelow.filter Test.hasCommands).flatMap (testLines g) ++ ["  \x7d);", ""]))) := by
  have hwritten : (o.groupWith cs).enabledTests.filter Test.hasCommands =
      o.testsAbove.filter Test.hasCommands ++
        o.testWith cs :: o.testsBelow.filter Test.hasCommands := by
    rw [o.enabledTests_groupWith, List.filter_append,
      List.filter_cons_of_pos (o.hasCommands_testWith hcs hothers)]
  have hhead : groupLines g (o.groupWith cs) = groupHead o.group ::
    (joined (((o.groupWith cs).enabledTests.filter Test.hasCommands).map (testLines g)) ++
      ["  \x7d);", ""]) := rfl
  rw [hhead, hwritten, joined_map (by simp)]
  simp only [List.flatMap_append, List.flatMap_cons, List.append_assoc]

/-- The lines of the groups with other commands in the place of a command. -/
theorem joined_groupLines (hothers : o.others ≠ []) :
    joined (((o.suiteWith cs).enabledGroups.filter Group.hasCommands).map (groupLines g)) =
      bodyAbove o g ++ (cs.flatMap (commandLines g) ++ bodyBelow o g) := by
  have hwritten : (o.suiteWith cs).enabledGroups.filter Group.hasCommands =
      o.groupsAbove.filter Group.hasCommands ++
        o.groupWith cs :: o.groupsBelow.filter Group.hasCommands := by
    rw [o.enabledGroups_suiteWith, List.filter_append,
      List.filter_cons_of_pos (o.hasCommands_groupWith hcs hothers)]
  rw [hwritten, joined_map (by simp)]
  simp only [List.flatMap_append, List.flatMap_cons, groupLines_groupWith o hcs hothers,
    testLines_testWith o hcs hothers, bodyAbove, bodyBelow, List.append_assoc, List.cons_append,
    List.nil_append]

end Around

end Jest

/-! ### The suite without the command -/

/-- The generation without a command of its suite. -/
def Generator.without (g : Generator) {c : Command} (o : g.suite.Occurrence c) : Generator :=
  { g with suite := o.suiteWith [], selectors := g.selectors, selectors_eq := g.selectors_eq }

namespace Jest

open Generator

variable {g : Generator} {c : Command} (o : g.suite.Occurrence c) (hmisses : g.Misses c)

include hmisses

theorem verdict_without : (g.without o).verdict = g.verdict := by
  obtain ⟨above, below, hcommands⟩ := o.exists_enabledCommands
  have hwith := hcommands [c] (by simpa using o.enabled)
  rw [o.suiteWith_self] at hwith
  have hwithout : (g.without o).suite.enabledCommands = _ := hcommands [] (by simp)
  have hcheck : (g.without o).checkCommand = g.checkCommand := rfl
  rw [verdict_eq_forM, verdict_eq_forM, hwith, hwithout, hcheck]
  simp only [List.forM_eq_forM, List.forM_append, List.forM_cons, List.forM_nil,
    checkCommand_of_misses hmisses, ok_bind, pure_eq_ok]

theorem stopIds_without :
    g.stopIds ((g.without o).suite.encountered g.snippets) =
      g.stopIds (g.suite.encountered g.snippets) := by
  obtain ⟨above, below, hcommands⟩ := o.exists_enabledCommands
  have hwith := hcommands [c] (by simpa using o.enabled)
  rw [o.suiteWith_self] at hwith
  have hwithout : (g.without o).suite.enabledCommands = _ := hcommands [] (by simp)
  rw [Suite.encountered_eq, Suite.encountered_eq, hwith, hwithout, stopIds_flatMap, stopIds_flatMap]
  simp only [List.flatMap_append, List.flatMap_cons, List.flatMap_nil, stopIds_of_misses hmisses,
    List.nil_append]

theorem listing_of_misses (hothers : o.others ≠ []) :
    listing g = linesAbove o g ++ "" :: linesBelow o g := by
  have hbody := joined_groupLines o (g := g) (List.forall_mem_singleton.2 o.enabled) hothers
  rw [o.suiteWith_self, List.flatMap_singleton, commandLines_of_misses hmisses] at hbody
  have hbodyLines : bodyLines g = _ := hbody
  unfold listing linesAbove linesBelow
  rw [hbodyLines]
  simp only [List.append_assoc, List.cons_append, List.nil_append]

theorem listing_without (hothers : o.others ≠ []) :
    listing (g.without o) = linesAbove o g ++ linesBelow o g := by
  have hbody : bodyLines (g.without o) = _ :=
    joined_groupLines o (g := g) (List.forall_mem_nil _) hothers
  have hids : (g.without o).stopIds ((g.without o).suite.encountered (g.without o).snippets) = _ :=
    stopIds_without o hmisses
  have hheader : ∀ ids, headerLines (g.without o) ids = headerLines g ids := fun _ => rfl
  have hdeclarations : (g.without o).resolver = g.resolver := rfl
  have hsetup : setupLines (g.without o) = setupLines g := rfl
  unfold listing linesAbove linesBelow
  rw [hids, hheader, hdeclarations, hsetup, hbody]
  simp only [List.flatMap_nil, List.append_assoc, List.nil_append]

variable (hschema : g.schema = schema)

include hschema

theorem check_without :
    check (g.without o).generate.outcome = check g.generate.outcome := by
  have hcomposer : g.schema.composer = composer := congrArg Schema.composer hschema
  have hcomposer' : (g.without o).schema.composer = composer := hcomposer
  rw [check_generate_of_composer hcomposer, check_generate_of_composer hcomposer',
    verdict_without o hmisses]
  rfl

theorem interactiveIds_without {r r' : Fragment} (h : g.generate.outcome = .ok r)
    (h' : (g.without o).generate.outcome = .ok r') : r'.interactiveIds = r.interactiveIds := by
  have hkeeps : g.schema.composer.KeepsBodies := hschema ▸ keepsBodies_composer
  rw [interactiveIds_eq_stopIds g hkeeps h, interactiveIds_eq_stopIds (g.without o) hkeeps h']
  exact stopIds_without o hmisses

end Jest

namespace Generator

/-- **A missed command is one empty line.**  Without the command the suite can be set up if and only
if it can with it, with the same fault if it cannot, and its generation fails if and only if the
other does, and alike.  If there are sources they have the same interactive ids, and they differ in
one line: that of the command, which is empty and stands where the lines of the command would. -/
theorem missed_command_is_one_empty_line {input : GeneratorInput} {c : Command}
    (o : input.suite.Occurrence c) (hschema : input.schema = Jest.schema)
    (hmisses : input.Misses c) (hothers : o.others ≠ []) :
    (∀ fault, ofInput input = .error fault ↔
      ofInput { input with suite := o.suiteWith [] } = .error fault) ∧
    ∀ g, ofInput input = .ok g → ∃ g',
      ofInput { input with suite := o.suiteWith [] } = .ok g' ∧
      (∀ failure, g.generate.outcome = .error failure ↔ g'.generate.outcome = .error failure) ∧
      ∀ r, g.generate.outcome = .ok r → ∃ r', g'.generate.outcome = .ok r' ∧
        r'.interactiveIds = r.interactiveIds ∧
        lines r.text =
          (Jest.linesAbove o g).flatMap lines ++ "" :: (Jest.linesBelow o g).flatMap lines ∧
        lines r'.text =
          (Jest.linesAbove o g).flatMap lines ++ (Jest.linesBelow o g).flatMap lines := by
  have hcongr := ofInput_congr input { input with suite := o.suiteWith [] } rfl rfl
  refine ⟨hcongr.1, fun g hg => ?_⟩
  obtain rfl := toGeneratorInput_of_ofInput hg
  have hcheck := Jest.check_without o hmisses hschema
  refine ⟨g.without o, (hcongr.2 g (g.without o) rfl rfl).1 hg, ?_, ?_⟩
  · intro failure
    rw [← check_eq_error_iff, ← hcheck, check_eq_error_iff]
  · intro r hr
    rw [hr, check_ok, check_eq_ok_iff] at hcheck
    obtain ⟨r', hr'⟩ := hcheck
    have hlines := (Jest.madeOf_generate hschema hr).lines_eq_flatMap
    have hlines' := (Jest.madeOf_generate (g := g.without o) hschema hr').lines_eq_flatMap
    rw [Jest.listing_of_misses o hmisses hothers] at hlines
    rw [Jest.listing_without o hmisses hothers, List.flatMap_append] at hlines'
    rw [List.flatMap_append, List.flatMap_cons, show lines "" = [""] from rfl,
      List.singleton_append] at hlines
    exact ⟨r', hr', Jest.interactiveIds_without o hmisses hschema hr hr', hlines, hlines'⟩

/-- A suite with a method that has no renderer and a reference to no snippet, under all
instrumentation. -/
def gappedInput : GeneratorInput where
  suite :=
    { title := .text "Shop"
      targets := []
      groups := [("g", {
        id := "g", title := .text "Cart", disabled := false
        tests := [("t", {
          id := "t", title := .text "Waits", disabled := false
          commands := [.acting "c1" "page" "reload" "g" "t", .acting "c2" "page" "rest" "g" "t",
            .referring "c3" "login" "g" "t"] })] })] }
  schema := Jest.schema
  runner := .embedded
  options := { trace := true, interactiveMode := true }

def gapped : Generator := { gappedInput with selectors := [], selectors_eq := rfl }

/-- The place of the method that has no renderer. -/
def gap : gappedInput.suite.Occurrence (.acting "c2" "page" "rest" "g" "t") where
  groupsBefore := []
  groupKey := "g"
  group := _
  groupsAfter := []
  testsBefore := []
  testKey := "t"
  test := _
  testsAfter := []
  before := [.acting "c1" "page" "reload" "g" "t"]
  after := [.referring "c3" "login" "g" "t"]
  groups_eq := rfl
  tests_eq := rfl
  commands_eq := rfl
  group_enabled := rfl
  test_enabled := rfl
  enabled := rfl

/-- The source stops once with the method and without it, and has one line less without it. -/
theorem gap_is_one_empty_line :
    ∃ g' r r', ofInput { gappedInput with suite := gap.suiteWith [] } = .ok g' ∧
      gapped.generate.outcome = .ok r ∧ g'.generate.outcome = .ok r' ∧
      r'.interactiveIds = ["c1"] ∧ r.interactiveIds = ["c1"] ∧
      (lines r.text).length = (lines r'.text).length + 1 := by
  have hmisses : gappedInput.Misses (.acting "c2" "page" "rest" "g" "t") := rfl
  obtain ⟨-, hset⟩ := missed_command_is_one_empty_line gap rfl hmisses (by decide)
  obtain ⟨g', hg', -, hgenerate⟩ := hset gapped rfl
  have hchecked : check gapped.generate.outcome = .ok () := by
    rw [check_generate_of_composer rfl]
    rfl
  obtain ⟨r, hr⟩ := check_eq_ok_iff.1 hchecked
  obtain ⟨r', hr', hids, hlines, hlines'⟩ := hgenerate r hr
  have hstops : r.interactiveIds = ["c1"] :=
    interactiveIds_eq_stopIds gapped Jest.keepsBodies_composer hr
  refine ⟨g', r, r', hg', hr, hr', hids.trans hstops, hstops, ?_⟩
  have hlength : ∀ above below : List String,
      (above ++ "" :: below).length = (above ++ below).length + 1 := by
    intro above below
    simp only [List.length_append, List.length_cons, Nat.add_assoc]
  rw [hlines, hlines', hlength]

end Generator

end SuiteCompiler
