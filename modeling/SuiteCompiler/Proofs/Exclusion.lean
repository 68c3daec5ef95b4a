/-
  SuiteCompiler/Proofs/Exclusion.lean
  ===================================
  What a generation does not see of its documents.

  Disabled groups, tests and commands take no part in a generation, and neither do
  tests and groups in which nothing is left without them.  Of a library only the
  snippets take part that the rest of the suite refers to, and of a snippet only the
  commands that are neither disabled nor references.  `GeneratorInput.usedPart`
  removes everything else at once, and each stage of the generator has the outcome
  on the part of a test, group or suite that it has on the whole, so a whole
  generation has it, too (`excluded_material_is_invisible`).  References inside
  snippets are among what is removed, so it does not matter whether a library refers
  to itself.
-/
import SuiteCompiler.Jest.Composer
import SuiteCompiler.Proofs.Reached

namespace SuiteCompiler

open Outcome

/-! ### The parts of documents that are used -/

/-- The test without its disabled commands. -/
def Test.enabledPart (t : Test) : Test := { t with commands := t.enabledCommands }

/-- The test without its disabled commands and its references. -/
def Test.inlinedPart (t : Test) : Test :=
  { t with commands := t.enabledCommands.filter (!·.isRef) }

/-- The group without its disabled tests and commands, and then without tests that have no
command. -/
def Group.enabledPart (group : Group) : Group :=
  let enabled := group.tests.filter (!·.2.disabled)
  let parts := enabled.map fun entry => (entry.1, entry.2.enabledPart)
  { group with tests := parts.filter (!·.2.commands.isEmpty) }

/-- The suite without its disabled groups, tests and commands, and then without tests that have no
command and groups that have no test. -/
def Suite.enabledPart (suite : Suite) : Suite :=
  let enabled := suite.groups.filter (!·.2.disabled)
  let parts := enabled.map fun entry => (entry.1, entry.2.enabledPart)
  { suite with groups := parts.filter (!·.2.tests.isEmpty) }

/-- Whether an enabled command of a suite refers to the snippet under a key. -/
def Suite.refersTo (suite : Suite) (key : String) : Bool :=
  suite.enabledGroups.any fun group => group.enabledTests.any fun t =>
    t.enabledCommands.any fun c => c.isRef && c.ref = .text key

/-- The library without the snippets that a suite does not refer to, and without the disabled
commands and the references of the others. -/
def SnippetLibrary.usedPart (library : SnippetLibrary) (suite : Suite) : SnippetLibrary :=
  let parts := library.tests.map fun entry => (entry.1, entry.2.inlinedPart)
  { library with tests := parts.filter fun entry => suite.refersTo entry.1 }

/-- The input without everything that is excluded from a generation. -/
def GeneratorInput.usedPart (input : GeneratorInput) : GeneratorInput :=
  { input with
    suite := input.suite.enabledPart
    snippets := input.snippets.usedPart input.suite.enabledPart }

/-- The generation for the part of the input that is used: the targets are all there. -/
def Generator.usedPart (g : Generator) : Generator :=
  { g.toGeneratorInput.usedPart with selectors := g.selectors, selectors_eq := g.selectors_eq }

/-! ### Walking the parts -/

theorem Test.enabledCommands_enabledPart (t : Test) :
    t.enabledPart.enabledCommands = t.enabledCommands := by
  simp [enabledPart, enabledCommands, List.filter_filter]

/-- The part of a snippet is all that a reference stands for. -/
theorem Test.enabledCommands_inlinedPart (t : Test) :
    t.inlinedPart.enabledCommands.filter (!·.isRef) = t.enabledCommands.filter (!·.isRef) := by
  simp only [inlinedPart, enabledCommands, List.filter_filter]
  exact List.filter_congr fun c _ => by cases c.isRef <;> simp

/-- The elements left under their keys are the parts of those that are enabled and not left
empty. -/
theorem filter_map_parts {α : Type} (enabled keep keep' : α → Bool) (part : α → α)
    (henabled : ∀ a, enabled (part a) = enabled a) (hkeep : ∀ a, keep (part a) = keep' a)
    (entries : List (String × α)) :
    ((((entries.filter fun entry => enabled entry.2).map fun entry =>
      (entry.1, part entry.2)).filter fun entry => keep entry.2).map (·.2)).filter enabled =
      (((entries.map (·.2)).filter enabled).filter keep').map part := by
  induction entries with
  | nil => rfl
  | cons entry entries ih =>
    cases he : enabled entry.2 <;> cases hk : keep' entry.2 <;>
      simp [he, hk, hkeep, henabled, ih]

theorem Group.enabledTests_enabledPart (group : Group) :
    group.enabledPart.enabledTests =
      (group.enabledTests.filter Test.hasCommands).map Test.enabledPart :=
  filter_map_parts (fun t : Test => !t.disabled) (fun t => !t.commands.isEmpty) Test.hasCommands
    Test.enabledPart (fun _ => rfl) (fun _ => rfl) group.tests

/-- A group has a test left if it has a command. -/
theorem Group.isEmpty_tests_enabledPart (group : Group) :
    (!group.enabledPart.tests.isEmpty) = group.hasCommands := by
  have hall : ∀ entry ∈ group.enabledPart.tests, entry.2.disabled = false := by
    intro entry hentry
    obtain ⟨entry', hentry', rfl⟩ := List.mem_map.1 (List.mem_filter.1 hentry).1
    have henabled : entry'.2.disabled = false := by simpa using (List.mem_filter.1 hentry').2
    exact henabled
  have htests : group.enabledPart.tests.map (·.2) = group.enabledPart.enabledTests := by
    refine (List.filter_eq_self.2 fun t ht => ?_).symm
    obtain ⟨entry, hentry, rfl⟩ := List.mem_map.1 ht
    simp [hall entry hentry]
  have hlength := congrArg List.isEmpty htests
  rw [enabledTests_enabledPart, List.isEmpty_map, List.isEmpty_map] at hlength
  rw [hlength, hasCommands, Bool.eq_iff_iff]
  simp [List.filter_eq_nil_iff]

theorem Suite.enabledGroups_enabledPart (suite : Suite) :
    suite.enabledPart.enabledGroups =
      (suite.enabledGroups.filter Group.hasCommands).map Group.enabledPart :=
  filter_map_parts (fun group : Group => !group.disabled) (fun group => !group.tests.isEmpty)
    Group.hasCommands Group.enabledPart (fun _ => rfl) Group.isEmpty_tests_enabledPart suite.groups

theorem lookup_parts {α β : Type} {part : α → β} {keep : String → Bool} {key : String}
    (h : keep key = true) (entries : List (String × α)) :
    ((entries.map fun entry => (entry.1, part entry.2)).filter fun entry => keep entry.1).lookup
      key = (entries.lookup key).map part := by
  induction entries with
  | nil => rfl
  | cons entry entries ih =>
    obtain ⟨name, a⟩ := entry
    cases hname : key == name with
    | true =>
      obtain rfl := eq_of_beq hname
      simp [h]
    | false =>
      -- whether it is kept or not, the look-up goes on behind it
      cases hk : keep name <;> simp [hk, List.lookup_cons, hname, ih]

/-- A snippet that the suite refers to is found in the used part if it is in the library. -/
theorem SnippetLibrary.getTest?_usedPart {library : SnippetLibrary} {suite : Suite} {ref : Value}
    (h : ∀ key, ref = .text key → suite.refersTo key = true) :
    (library.usedPart suite).getTest? ref =
      (library.getTest? ref).map (Option.map Test.inlinedPart) := by
  cases ref with
  | text key => exact congrArg Except.ok (lookup_parts (h key rfl) library.tests)
  | _ => rfl

/-- The references of an enabled test of a suite are references of the suite. -/
theorem Suite.refersTo_enabledPart {suite : Suite} {group : Group} {t : Test} {c : Command}
    (hgroup : group ∈ suite.enabledGroups) (ht : t ∈ group.enabledTests)
    (hc : c ∈ t.enabledCommands) (href : c.isRef = true) {key : String}
    (hkey : c.ref = .text key) : suite.enabledPart.refersTo key = true := by
  have htest : t.hasCommands = true := by
    simpa [Test.hasCommands] using List.ne_nil_of_mem hc
  have hgroup' : group.hasCommands = true := List.any_eq_true.2 ⟨t, ht, htest⟩
  unfold refersTo
  rw [enabledGroups_enabledPart]
  refine List.any_eq_true.2 ⟨group.enabledPart, ?_, List.any_eq_true.2 ⟨t.enabledPart, ?_, ?_⟩⟩
  · exact List.mem_map_of_mem (List.mem_filter.2 ⟨hgroup, hgroup'⟩)
  · rw [Group.enabledTests_enabledPart]
    exact List.mem_map_of_mem (List.mem_filter.2 ⟨ht, htest⟩)
  · rw [Test.enabledCommands_enabledPart]
    exact List.any_eq_true.2 ⟨c, hc, by simp [href, hkey]⟩

namespace Generator

/-! ### Stages on the parts -/

/-- Plain commands are rendered without the documents. -/
theorem renderPlain_usedPart (g : Generator) (c : Command) :
    g.usedPart.renderPlain c = g.renderPlain c := rfl

theorem outcome_renderReference_usedPart (g : Generator) {ref : Value}
    (h : ∀ key, ref = .text key → g.suite.enabledPart.refersTo key = true) (bindings : Fields) :
    (g.usedPart.renderReference ref bindings).outcome =
      (g.renderReference ref bindings).outcome := by
  have hfound : g.usedPart.snippets.getTest? ref =
      (g.snippets.getTest? ref).map (Option.map Test.inlinedPart) :=
    SnippetLibrary.getTest?_usedPart h
  rw [outcome_renderReference, outcome_renderReference, hfound]
  cases g.snippets.getTest? ref with
  | error kind => rfl
  | ok found =>
    cases found with
    | none => rfl
    | some test =>
      simp only [Except.map, Option.map_some, Test.enabledCommands_inlinedPart,
        renderPlain_usedPart]
      rfl

theorem outcome_renderCommand_usedPart (g : Generator) {c : Command}
    (henabled : c.disabled = false)
    (h : c.isRef = true → ∀ key, c.ref = .text key → g.suite.enabledPart.refersTo key = true) :
    (g.usedPart.renderCommand c).outcome = (g.renderCommand c).outcome := by
  rw [outcome_renderCommand _ henabled, outcome_renderCommand _ henabled, renderPlain_usedPart]
  cases href : c.isRef with
  | false => rfl
  | true =>
    rw [if_pos rfl, if_pos rfl]
    exact outcome_renderReference_usedPart g (h href) _

theorem outcome_renderTest_usedPart (g : Generator) {group : Group} {t : Test}
    (hgroup : group ∈ g.suite.enabledGroups) (ht : t ∈ group.enabledTests) :
    (g.usedPart.renderTest t.enabledPart).outcome = (g.renderTest t).outcome := by
  have hcommands : (t.enabledCommands.mapM fun c => (g.usedPart.renderCommand c).outcome) =
      t.enabledCommands.mapM fun c => (g.renderCommand c).outcome := by
    refine mapM_congr fun c hc => outcome_renderCommand_usedPart g ?_ fun href key hkey => ?_
    · simpa using (List.mem_filter.1 hc).2
    · exact Suite.refersTo_enabledPart hgroup ht hc href hkey
  rw [outcome_renderTest, outcome_renderTest, Test.enabledCommands_enabledPart, hcommands]
  rfl

/-- A test without commands has no source. -/
theorem outcome_renderTest_of_not_hasCommands (g : Generator) {t : Test}
    (h : t.hasCommands = false) : (g.renderTest t).outcome = .ok .empty := by
  have hempty : t.enabledCommands.isEmpty = true := by simpa [Test.hasCommands] using h
  rw [outcome_renderTest, if_pos hempty]

/-- The tests without commands leave nothing that is kept. -/
theorem mapM_renderTest_hasCommands (g : Generator) (group : Group) :
    (((group.enabledTests.filter Test.hasCommands).mapM fun t =>
      (g.renderTest t).outcome).map (List.filter Fragment.isTruthy)) =
      (group.enabledTests.mapM fun t => (g.renderTest t).outcome).map
        (List.filter Fragment.isTruthy) :=
  mapM_filter_map_filter fun _ _ hnone =>
    ⟨.empty, outcome_renderTest_of_not_hasCommands g hnone, rfl⟩

/-- A group around the tests that have source. -/
def composeGroup (g : Generator) (title : Value) (tests : List Fragment) :
    Except RenderFailure Fragment :=
  if tests.isEmpty then .ok .empty
  else do
    let body := Fragment.join tests "\n"
    let text ← (g.schema.composer.group title body.text).mapError .template
    return ⟨text, body.interactiveIds⟩

theorem outcome_renderGroup_eq (g : Generator) (group : Group) :
    (g.renderGroup group).outcome =
      (group.enabledTests.mapM fun t => (g.renderTest t).outcome) >>= fun tests =>
        g.composeGroup group.title (tests.filter Fragment.isTruthy) :=
  outcome_renderGroup g group

theorem outcome_renderGroup_usedPart (g : Generator) {group : Group}
    (hgroup : group ∈ g.suite.enabledGroups) :
    (g.usedPart.renderGroup group.enabledPart).outcome = (g.renderGroup group).outcome := by
  have htests : ((group.enabledTests.filter Test.hasCommands).mapM fun t =>
      (g.usedPart.renderTest t.enabledPart).outcome) =
      (group.enabledTests.filter Test.hasCommands).mapM fun t => (g.renderTest t).outcome :=
    mapM_congr fun t ht => outcome_renderTest_usedPart g hgroup (List.mem_filter.1 ht).1
  have hkept := g.mapM_renderTest_hasCommands group
  rw [outcome_renderGroup_eq, outcome_renderGroup_eq, Group.enabledTests_enabledPart,
    List.mapM_map]
  rw [← htests] at hkept
  exact bind_comp_congr hkept (g.composeGroup group.title)

/-- A group without commands has no source. -/
theorem outcome_renderGroup_of_not_hasCommands (g : Generator) {group : Group}
    (h : group.hasCommands = false) : (g.renderGroup group).outcome = .ok .empty := by
  have hnone : group.enabledTests.filter Test.hasCommands = [] := by
    simpa [Group.hasCommands, List.filter_eq_nil_iff] using h
  have hkept := g.mapM_renderTest_hasCommands group
  rw [hnone] at hkept
  rw [outcome_renderGroup_eq]
  exact (bind_comp_congr hkept (g.composeGroup group.title)).symm

/-- The groups without commands leave nothing that is kept. -/
theorem mapM_renderGroup_hasCommands (g : Generator) :
    (((g.suite.enabledGroups.filter Group.hasCommands).mapM fun group =>
      (g.renderGroup group).outcome).map (List.filter Fragment.isTruthy)) =
      (g.suite.enabledGroups.mapM fun group => (g.renderGroup group).outcome).map
        (List.filter Fragment.isTruthy) :=
  mapM_filter_map_filter fun _ _ hnone =>
    ⟨.empty, outcome_renderGroup_of_not_hasCommands g hnone, rfl⟩

theorem renderBody_usedPart (g : Generator) : g.usedPart.renderBody = g.renderBody := by
  have hgroups : ((g.suite.enabledGroups.filter Group.hasCommands).mapM fun group =>
      (g.usedPart.renderGroup group.enabledPart).outcome) =
      (g.suite.enabledGroups.filter Group.hasCommands).mapM fun group =>
        (g.renderGroup group).outcome :=
    mapM_congr fun group hgroup => outcome_renderGroup_usedPart g (List.mem_filter.1 hgroup).1
  have hkept := g.mapM_renderGroup_hasCommands
  have hpart : g.usedPart.suite.enabledGroups =
      (g.suite.enabledGroups.filter Group.hasCommands).map Group.enabledPart :=
    Suite.enabledGroups_enabledPart g.suite
  unfold renderBody
  rw [hpart, List.mapM_map]
  rw [← hgroups] at hkept
  exact bind_comp_congr hkept fun groups => .ok (Fragment.join groups "\n")

/-- The test file is written without the suite record. -/
theorem composeSuite_usedPart (g : Generator) (hcomposer : g.schema.composer = Jest.composer)
    (body : Fragment) : g.usedPart.composeSuite body = g.composeSuite body := by
  have hcomposer' : g.usedPart.schema.composer = Jest.composer := hcomposer
  unfold composeSuite
  rw [hcomposer, hcomposer']
  rfl

theorem outcome_generate_usedPart (g : Generator) (hcomposer : g.schema.composer = Jest.composer) :
    g.usedPart.generate.outcome = g.generate.outcome := by
  rw [outcome_generate, outcome_generate, renderBody_usedPart]
  exact bind_congr fun body => by rw [composeSuite_usedPart g hcomposer]

theorem ofInput_usedPart (input : GeneratorInput) :
    ofInput input.usedPart = (ofInput input).map usedPart := by
  have hcongr := ofInput_congr input input.usedPart rfl rfl
  cases h : ofInput input with
  | error fault => exact (hcongr.1 fault).1 h
  | ok g =>
    obtain rfl := toGeneratorInput_of_ofInput h
    exact (hcongr.2 g g.usedPart rfl rfl).1 h

/-- **Excluded material is invisible.**  The part of the input that is used can be set up if and
only if the whole can, with the same fault if it cannot, and then its generation has the same
outcome: the same source and ids, or the same failure. -/
theorem excluded_material_is_invisible {input : GeneratorInput}
    (hcomposer : input.schema.composer = Jest.composer) :
    (∀ fault, ofInput input = .error fault ↔ ofInput input.usedPart = .error fault) ∧
    (∀ g, ofInput input = .ok g → ∃ g', ofInput input.usedPart = .ok g' ∧
      g'.generate.outcome = g.generate.outcome) := by
  constructor
  · intro fault
    rw [ofInput_usedPart]
    cases ofInput input <;> simp [Except.map]
  · intro g hg
    have hschema : g.schema.composer = Jest.composer := by
      rw [toGeneratorInput_of_ofInput hg]
      exact hcomposer
    refine ⟨g.usedPart, ?_, outcome_generate_usedPart g hschema⟩
    rw [ofInput_usedPart, hg]
    rfl

/-- A suite of which little is used: a disabled group, a test without commands, disabled commands
and a snippet that refers to itself, beside one that nothing refers to. -/
def clutteredInput : GeneratorInput where
  suite :=
    { title := .text "Shop"
      targets := [(.text "BUY", ⟨.text "BUY", .text "#buy", .text "BUY"⟩)]
      groups := [
        ("old", {
          id := "old", title := .text "Old", disabled := true
          tests := [("t", {
            id := "t", title := .text "Pays", disabled := false
            commands := [.acting "c1" "BUY" "type" "old" "t"] })] }),
        ("draft", {
          id := "draft", title := .text "Draft", disabled := false
          tests := [("t", {
            id := "t", title := .text "Pays", disabled := false
            commands := [
              { Command.acting "c1" "BUY" "type" "draft" "t" with disabled := true }] })] }),
        ("g", {
          id := "g", title := .text "Cart", disabled := false
          tests := [
            ("t", {
              id := "t", title := .text "Pays", disabled := false
              commands := [.acting "c1" "BUY" "pay" "g" "t",
                { Command.referring "c2" "logout" "g" "t" with disabled := true },
                .referring "c3" "login" "g" "t"] }),
            ("u", { id := "u", title := .text "Leaves", disabled := false, commands := [] })] })] }
  schema := Jest.schema.insert .element "pay" fun _ => .ok "      await pay();"
  snippets :=
    { targets := []
      tests := [
        ("login", {
          id := "login", title := .text "Login", disabled := false
          commands := [.referring "s1" "login" "snippets" "login",
            .acting "s2" "BUY" "click" "snippets" "login",
            { Command.acting "s3" "BUY" "type" "snippets" "login" with disabled := true }] }),
        ("logout", {
          id := "logout", title := .text "Logout", disabled := false
          commands := [.acting "s1" "BUY" "type" "snippets" "logout"] })] }

def cluttered : Generator :=
  { clutteredInput with selectors := [(.text "BUY", .text "#buy")], selectors_eq := rfl }

/-- One group with one test of two commands is left, and one snippet with one command. -/
theorem cluttered_as_its_used_part :
    clutteredInput.usedPart.suite.groups = [("g", {
      id := "g", title := .text "Cart", disabled := false
      tests := [("t", {
        id := "t", title := .text "Pays", disabled := false
        commands := [.acting "c1" "BUY" "pay" "g" "t", .referring "c3" "login" "g" "t"] })] })] ∧
    clutteredInput.usedPart.snippets.tests = [("login", {
      id := "login", title := .text "Login", disabled := false
      commands := [.acting "s2" "BUY" "click" "snippets" "login"] })] ∧
    ∃ g', ofInput clutteredInput.usedPart = .ok g' ∧
      g'.generate.outcome = cluttered.generate.outcome := by
  refine ⟨by decide +kernel, by decide +kernel, ?_⟩
  have hcluttered : ofInput clutteredInput = .ok cluttered := rfl
  exact (excluded_material_is_invisible rfl).2 cluttered hcluttered

end Generator

end SuiteCompiler
