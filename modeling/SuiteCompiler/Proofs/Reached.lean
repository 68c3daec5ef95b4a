/-
  SuiteCompiler/Proofs/Reached.lean
  =================================
  The commands that a generation reaches, and the outcome of every stage of the
  generator without its log.

  A reached command is an enabled command of an enabled test of an enabled group
  that some renderer serves; a reference is replaced by the enabled commands of its
  snippet that are no references themselves.  The definition only walks the suite,
  the library and the schema: it knows nothing of rendering.

  `outcome_generate` splits a generation into the body, which renders the groups,
  and the composition of the suite around it.
-/
import SuiteCompiler.Generation.Generator
import SuiteCompiler.Proofs.Outcome

namespace SuiteCompiler

open Outcome

/-! ### Walking a suite -/

/-- The commands that an enabled command stands for: a reference for the commands of its snippet
that are neither disabled nor references, every other command for itself. -/
def SnippetLibrary.expand (library : SnippetLibrary) (c : Command) : List Command :=
  if c.isRef then
    match library.getTest? c.ref with
    | .ok (some test) => test.enabledCommands.filter (!·.isRef)
    | _ => []
  else [c]

/-- Whether a test has a command that is not disabled. -/
def Test.hasCommands (t : Test) : Bool := !t.enabledCommands.isEmpty

/-- Whether a group has a test with a command, none of them disabled. -/
def Group.hasCommands (group : Group) : Bool := group.enabledTests.any Test.hasCommands

/-- The commands that the enabled commands of a test stand for, in order. -/
def Test.encountered (library : SnippetLibrary) (t : Test) : List Command :=
  t.enabledCommands.flatMap library.expand

/-- The commands that the enabled tests of a group stand for, in order. -/
def Group.encountered (library : SnippetLibrary) (group : Group) : List Command :=
  group.enabledTests.flatMap (Test.encountered library)

/-- The commands that the enabled groups of a suite stand for, in order. -/
def Suite.encountered (library : SnippetLibrary) (suite : Suite) : List Command :=
  suite.enabledGroups.flatMap (Group.encountered library)

/-- The enabled commands of the enabled tests of the enabled groups, in order. -/
def Suite.enabledCommands (suite : Suite) : List Command :=
  suite.enabledGroups.flatMap fun group => group.enabledTests.flatMap Test.enabledCommands

/-- Whether the schema supports the method of a command on what the command acts on. -/
def Schema.serves (s : Schema) (c : Command) : Bool :=
  match s.supports c.kind c.method with
  | .ok supported => supported
  | .error _ => false

/-- The supported commands that a generation encounters, in order and with multiplicity. -/
def GeneratorInput.reached (input : GeneratorInput) : List Command :=
  (input.suite.encountered input.snippets).filter input.schema.serves

/-- All commands of the suite and of the snippets, disabled ones included. -/
def GeneratorInput.commands (input : GeneratorInput) : List Command :=
  (input.suite.groups.flatMap fun group => group.2.tests.flatMap fun test => test.2.commands) ++
    input.snippets.tests.flatMap fun test => test.2.commands

theorem SnippetLibrary.expand_of_isRef {library : SnippetLibrary} {c : Command}
    (h : c.isRef = true) {test : Test} (htest : library.getTest? c.ref = .ok (some test)) :
    library.expand c = test.enabledCommands.filter (!·.isRef) := by
  simp [expand, h, htest]

theorem SnippetLibrary.expand_of_not_isRef {library : SnippetLibrary} {c : Command}
    (h : c.isRef = false) : library.expand c = [c] := by
  simp [expand, h]

/-- A snippet that a reference names is one of the library. -/
theorem SnippetLibrary.mem_tests_of_getTest? {library : SnippetLibrary} {ref : Value} {test : Test}
    (h : library.getTest? ref = .ok (some test)) : ∃ key, (key, test) ∈ library.tests := by
  unfold getTest? at h
  split at h
  · cases h
  · cases h
  · rename_i key
    have hlookup : library.tests.lookup key = some test := by simpa using h
    exact ⟨key, mem_of_lookup hlookup⟩
  · cases h

theorem GeneratorInput.mem_commands_of_suite {input : GeneratorInput} {group : Group} {test : Test}
    {c : Command} (hgroup : group ∈ input.suite.enabledGroups) (htest : test ∈ group.enabledTests)
    (hc : c ∈ test.enabledCommands) : c ∈ input.commands := by
  simp only [Suite.enabledGroups, List.mem_filter, List.mem_map] at hgroup
  simp only [Group.enabledTests, List.mem_filter, List.mem_map] at htest
  obtain ⟨⟨entry, hentry, rfl⟩, -⟩ := hgroup
  obtain ⟨⟨item, hitem, rfl⟩, -⟩ := htest
  refine List.mem_append_left _ (List.mem_flatMap.2 ⟨entry, hentry, ?_⟩)
  exact List.mem_flatMap.2 ⟨item, hitem, (List.mem_filter.1 hc).1⟩

theorem GeneratorInput.mem_commands_of_snippet {input : GeneratorInput} {ref : Value} {test : Test}
    {c : Command} (htest : input.snippets.getTest? ref = .ok (some test))
    (hc : c ∈ test.enabledCommands) : c ∈ input.commands := by
  obtain ⟨key, hkey⟩ := SnippetLibrary.mem_tests_of_getTest? htest
  refine List.mem_append_right _ (List.mem_flatMap.2 ⟨(key, test), hkey, ?_⟩)
  exact (List.mem_filter.1 hc).1

theorem flatMap_filter_of_nil {α β : Type} {f : α → List β} {keep : α → Bool} {xs : List α}
    (h : ∀ x ∈ xs, keep x = false → f x = []) : (xs.filter keep).flatMap f = xs.flatMap f := by
  induction xs with
  | nil => rfl
  | cons x xs ih =>
    have hxs := ih fun y hy => h y (List.mem_cons_of_mem x hy)
    cases hk : keep x with
    | true => rw [List.filter_cons_of_pos hk, List.flatMap_cons, List.flatMap_cons, hxs]
    | false =>
      rw [List.filter_cons_of_neg (by simp [hk]), List.flatMap_cons, h x List.mem_cons_self hk, hxs,
        List.nil_append]

/-- The tests without commands can be left out. -/
theorem Group.flatMap_encountered (group : Group) (library : SnippetLibrary) :
    (group.enabledTests.filter Test.hasCommands).flatMap (Test.encountered library) =
      group.encountered library := by
  refine flatMap_filter_of_nil fun t _ hnone => ?_
  have hnil : t.enabledCommands = [] := by simpa [Test.hasCommands] using hnone
  rw [Test.encountered, hnil]
  rfl

/-- The groups without commands can be left out. -/
theorem Suite.flatMap_encountered (suite : Suite) (library : SnippetLibrary) :
    (suite.enabledGroups.filter Group.hasCommands).flatMap (Group.encountered library) =
      suite.encountered library := by
  refine flatMap_filter_of_nil fun group _ hnone => ?_
  have hnil : group.enabledTests.filter Test.hasCommands = [] := by
    simpa [Group.hasCommands, List.filter_eq_nil_iff] using hnone
  rw [← Group.flatMap_encountered, hnil]
  rfl

theorem Suite.encountered_eq (suite : Suite) (library : SnippetLibrary) :
    suite.encountered library = suite.enabledCommands.flatMap library.expand := by
  change (suite.enabledGroups.flatMap fun group => group.enabledTests.flatMap fun t =>
    t.enabledCommands.flatMap library.expand) = _
  simp only [enabledCommands, List.flatMap_assoc]

theorem Suite.disabled_of_mem_enabledCommands {suite : Suite} {c : Command}
    (h : c ∈ suite.enabledCommands) : c.disabled = false := by
  obtain ⟨group, -, hgroup⟩ := List.mem_flatMap.1 h
  obtain ⟨t, -, ht⟩ := List.mem_flatMap.1 hgroup
  simpa using (List.mem_filter.1 ht).2

/-- What an enabled command stands for is reached if it is supported. -/
theorem GeneratorInput.mem_reached {input : GeneratorInput} {c d : Command}
    (hc : c ∈ input.suite.enabledCommands) (hd : d ∈ input.snippets.expand c)
    (hserves : input.schema.serves d = true) : d ∈ input.reached := by
  rw [reached, Suite.encountered_eq]
  exact List.mem_filter.2 ⟨List.mem_flatMap.2 ⟨c, hc, hd⟩, hserves⟩

/-! ### Commands of one purpose -/

/-- The command that acts by a method on a target, without parameters. -/
def Command.acting (id target method groupId testId : String) : Command where
  id
  groupId := .text groupId
  testId := .text testId
  target := .text target
  method := .text method
  params := []
  assertion := none
  bindings := none
  disabled := false
  isRef := false
  ref := .null

/-- The command that stands for a snippet. -/
def Command.referring (id ref groupId testId : String) : Command :=
  { Command.acting id "" "" groupId testId with isRef := true, ref := .text ref }

/-! ### Rendering a single command -/

theorem Schema.serves_iff {s : Schema} {c : Command} :
    s.serves c = true ↔
      ∃ method renderer, c.method = .text method ∧ s.renderer? c.kind method = some renderer := by
  unfold serves supports find?
  cases c.method <;> simp [Except.map, Option.isSome_iff_exists]

namespace Generator

theorem toGeneratorInput_of_ofInput {input : GeneratorInput} {g : Generator}
    (h : ofInput input = .ok g) : g.toGeneratorInput = input := by
  unfold ofInput at h
  split at h
  · cases h
  · split at h
    · cases h
    · obtain rfl := Except.ok.inj h
      rfl

/-- An input cannot be set up if a method without a wait, or else the name of a target, is a list
or an object. -/
theorem ofInput_eq_error_iff {input : GeneratorInput} {fault : TemplateFault} :
    ofInput input = .error fault ↔
      match input.illegalMethods.find? (·.key?.isNone) with
      | some v => fault = .unhashable v.kind
      | none => input.resolver.selectorTable = .error fault := by
  unfold ofInput
  generalize input.illegalMethods.find? (·.key?.isNone) = found
  cases found with
  | some v => exact ⟨fun h => (Except.error.inj h).symm, fun h => congrArg Except.error h.symm⟩
  | none =>
    dsimp only
    split
    · rename_i hfault
      rw [hfault, Except.error.injEq, Except.error.injEq]
    · rename_i htable
      exact iff_of_false nofun (by rw [htable]; nofun)

/-- A generation that is set up is known by its input, since that decides the table of selectors. -/
theorem ofInput_eq_ok_iff {input : GeneratorInput} {g : Generator} :
    ofInput input = .ok g ↔
      g.toGeneratorInput = input ∧ input.illegalMethods.find? (·.key?.isNone) = none := by
  constructor
  · intro h
    refine ⟨toGeneratorInput_of_ofInput h, ?_⟩
    unfold ofInput at h
    split at h
    · cases h
    · assumption
  · rintro ⟨rfl, hfind⟩
    unfold ofInput
    split
    · rename_i hfound
      cases hfind.symm.trans hfound
    · split
      · rename_i hfault
        cases g.selectors_eq.symm.trans hfault
      · rename_i selectors hselectors
        obtain rfl := Except.ok.inj (g.selectors_eq.symm.trans hselectors)
        rfl

/-- Inputs with the same targets and the same methods without a wait are set up alike. -/
theorem ofInput_congr (input input' : GeneratorInput)
    (hillegal : input'.illegalMethods = input.illegalMethods)
    (hresolver : input'.resolver = input.resolver) :
    (∀ fault, ofInput input = .error fault ↔ ofInput input' = .error fault) ∧
      ∀ g g', g.toGeneratorInput = input → g'.toGeneratorInput = input' →
        (ofInput input = .ok g ↔ ofInput input' = .ok g') := by
  constructor
  · intro fault
    rw [ofInput_eq_error_iff, ofInput_eq_error_iff, hillegal, hresolver]
  · intro g g' hg hg'
    rw [ofInput_eq_ok_iff, ofInput_eq_ok_iff, hillegal, and_iff_right hg, and_iff_right hg']

/-- What the renderer of a command gives: the selector of the target is looked up, and the
renderer that serves the method is given the command. -/
def commandText (g : Generator) (c : Command) : Except TemplateFault String := do
  let selector ← g.selector c.target
  g.schema.render c.kind c.method (context c selector)

/-- Whether a wait follows a command. -/
def stopsAfter (g : Generator) (c : Command) : Bool :=
  g.options.interactiveMode && !g.illegalMethods.contains c.method

/-- The source of a command that its renderer has turned into `chunk`. -/
def finish (g : Generator) (c : Command) (chunk : String) : Fragment :=
  g.instrument c (c.method.text?.getD "") chunk

/-- The selector of a target that is named by a text is its entry in the table of selectors. -/
theorem selector_text (g : Generator) (name : String) :
    g.selector (.text name) = .ok ((g.selectors.get? (.text name)).getD .null) := rfl

/-- A supported method is left to its renderer. -/
theorem commandText_eq {g : Generator} {c : Command} {method : String} {renderer : Renderer}
    (hmethod : c.method = .text method) (hr : g.schema.renderer? c.kind method = some renderer) :
    g.commandText c =
      g.selector c.target >>= fun selector => renderer (context c selector method) := by
  unfold commandText Schema.render
  rw [hmethod]
  simp [Schema.find?, hr]

/-- A method is compared with the methods that no wait follows as a key, which for texts is
equality. -/
theorem waitsAfter_eq {g : Generator} {c : Command} {method : String}
    (h : c.method = .text method) : g.waitsAfter method = g.stopsAfter c := by
  unfold waitsAfter stopsAfter
  congr 2
  rw [h, Bool.eq_iff_iff, List.any_eq_true, List.contains_iff_exists_mem_beq]
  refine exists_congr fun v => and_congr_right fun _ => ?_
  rw [Value.sameKey_iff, beq_iff_eq]
  constructor
  · rintro ⟨k, hv, hk⟩
    simp only [Value.key?, Option.some.injEq] at hk
    subst hk
    cases v with
    | text s => simpa [Value.key?, eq_comm] using hv
    | float x => simp only [Value.key?] at hv; split at hv <;> simp at hv
    | _ => simp [Value.key?] at hv
  · rintro rfl
    exact ⟨.text method, rfl, rfl⟩

theorem renderPlain?_eq (g : Generator) (c : Command) :
    g.renderPlain? c = g.schema.supports c.kind c.method >>= fun supported =>
      if supported then (g.commandText c).map fun chunk => some (g.finish c chunk)
      else .ok none := by
  unfold renderPlain? commandText Schema.supports Schema.render finish
  cases hm : c.method with
  | text method =>
    cases hr : g.schema.renderer? c.kind method with
    | none => simp [Schema.find?, hr, Except.map]
    | some renderer =>
      cases hs : g.selector c.target with
      | error fault => simp [Schema.find?, hr, Except.map]
      | ok selector =>
        cases ht : renderer (context c selector method) <;>
          simp [Schema.find?, hr, Except.map, ht, Value.text?]
  | _ => rfl

theorem outcome_renderPlain (g : Generator) (c : Command) :
    (g.renderPlain c).outcome =
      ((g.renderPlain? c).map fun fragment => fragment.getD .empty).mapError
        fun fault => .command (.of c fault) := by
  unfold renderPlain
  cases g.renderPlain? c with
  | error fault => rfl
  | ok fragment => cases fragment <;> rfl

/-- A supported command has the source that its renderer and the options give it. -/
theorem outcome_renderPlain_of_serves (g : Generator) {c : Command}
    (h : g.schema.serves c = true) :
    (g.renderPlain c).outcome =
      ((g.commandText c).map (g.finish c)).mapError fun fault => .command (.of c fault) := by
  have hsupports : g.schema.supports c.kind c.method = .ok true := by
    unfold Schema.serves at h
    split at h
    · simp_all
    · cases h
  rw [outcome_renderPlain, renderPlain?_eq, hsupports]
  cases g.commandText c <;> rfl

/-- A command that is not supported has no source. -/
theorem eq_empty_of_renderPlain (g : Generator) {c : Command} (h : g.schema.serves c = false)
    {f : Fragment} (hf : (g.renderPlain c).outcome = .ok f) : f = .empty := by
  rw [outcome_renderPlain, mapError_eq_ok_iff, map_eq_ok_iff] at hf
  obtain ⟨found, hfound, rfl⟩ := hf
  rw [renderPlain?_eq, bind_eq_ok_iff] at hfound
  obtain ⟨supported, hsupports, hfound⟩ := hfound
  obtain rfl : supported = false := by simpa [Schema.serves, hsupports] using h
  obtain rfl : none = found := by simpa using hfound
  rfl

/-! ### Outcomes of the stages -/

theorem outcome_renderSnippet (g : Generator) (ref : Value) (cs : List Command) :
    (g.renderSnippet ref cs).outcome =
      (cs.filter (!·.isRef)).mapM fun c => (g.renderPlain c).outcome := by
  induction cs with
  | nil => rfl
  | cons c cs ih =>
    unfold renderSnippet
    cases h : c.isRef with
    | true => simp [h, ih]
    | false =>
      have hcons : (c :: cs).filter (!·.isRef) = c :: cs.filter (!·.isRef) := by simp [h]
      rw [hcons, List.mapM_cons, ← ih]
      simp

theorem outcome_renderReference (g : Generator) (ref : Value) (bindings : Fields) :
    (g.renderReference ref bindings).outcome =
      match g.snippets.getTest? ref with
      | .error kind => .error (.template (.unhashable kind))
      | .ok none => .ok .empty
      | .ok (some test) => do
        let body ← (test.enabledCommands.filter (!·.isRef)).mapM
          fun c => (g.renderPlain c).outcome
        return ⟨Instrumentation.fence test.title (Fragment.join body "\n").text
          (assignment bindings), (Fragment.join body "\n").interactiveIds⟩ := by
  unfold renderReference
  cases g.snippets.getTest? ref with
  | error kind => rfl
  | ok found =>
    cases found with
    | none => rfl
    | some test =>
      simp only [Logged.outcome_bind, outcome_renderSnippet]
      rfl

/-- The source of an enabled command. -/
theorem outcome_renderCommand (g : Generator) {c : Command} (h : c.disabled = false) :
    (g.renderCommand c).outcome =
      if c.isRef then (g.renderReference c.ref (c.bindings.getD [])).outcome
      else (g.renderPlain c).outcome := by
  unfold renderCommand
  cases c.isRef <;> simp [h]

theorem outcome_renderTest (g : Generator) (t : Test) :
    (g.renderTest t).outcome =
      if t.enabledCommands.isEmpty then .ok .empty
      else do
        let commands ← t.enabledCommands.mapM fun c => (g.renderCommand c).outcome
        let body := Fragment.join commands "\n"
        let text ← (g.schema.composer.test (.text (testTitle t)) body.text).mapError .template
        return ⟨text, body.interactiveIds⟩ := by
  unfold renderTest
  split
  · rfl
  · simp only [Logged.outcome_bind, Logged.outcome_each, above, Logged.outcome_lift]
    rfl

theorem outcome_renderGroup (g : Generator) (group : Group) :
    (g.renderGroup group).outcome = do
      let tests ← group.enabledTests.mapM fun t => (g.renderTest t).outcome
      let tests := tests.filter Fragment.isTruthy
      if tests.isEmpty then .ok .empty
      else do
        let body := Fragment.join tests "\n"
        let text ← (g.schema.composer.group group.title body.text).mapError .template
        return ⟨text, body.interactiveIds⟩ := by
  unfold renderGroup
  rw [Logged.outcome_bind, Logged.outcome_each]
  refine bind_congr fun tests => ?_
  dsimp only
  split
  · rfl
  · simp only [Logged.outcome_bind, above, Logged.outcome_lift]
    rfl

/-- The source of the enabled groups, which the suite is composed around. -/
def renderBody (g : Generator) : Except RenderFailure Fragment := do
  let groups ← g.suite.enabledGroups.mapM fun group => (g.renderGroup group).outcome
  return Fragment.join (groups.filter Fragment.isTruthy) "\n"

theorem outcome_renderSuite (g : Generator) :
    g.renderSuite.outcome.map Prod.fst =
      g.renderBody >>= fun body => (g.composeSuite body).mapError .template := by
  unfold renderSuite renderBody
  simp only [Logged.outcome_bind, Logged.outcome_each, above, Logged.outcome_lift]
  cases g.suite.enabledGroups.mapM fun group => (g.renderGroup group).outcome with
  | error failure => rfl
  | ok groups =>
    simp only [ok_bind, pure_eq_ok]
    cases g.composeSuite (Fragment.join (groups.filter Fragment.isTruthy) "\n") <;> rfl

/-- A generation renders the body and then composes the suite. -/
theorem outcome_generate (g : Generator) :
    g.generate.outcome =
      g.renderBody >>= fun body => (g.composeSuite body).mapError .template := by
  rw [← outcome_renderSuite]
  unfold generate
  cases h : g.renderSuite.outcome <;> simp [h, Except.map]

end Generator

end SuiteCompiler
