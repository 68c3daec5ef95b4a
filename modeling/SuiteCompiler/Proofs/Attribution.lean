/-
  SuiteCompiler/Proofs/Attribution.lean
  =====================================
  When every failure of a generation names the command that failed.

  A document is accepted with any value for the name of a target, the reference of a
  command or its target and method.  What becomes of a list or an object there depends
  on where it is looked up: a command that is no reference fails by itself and is named,
  a reference fails without a name, and a target keeps the generation from being set up.

  The walk over the commands (`Generator.checkCommand`) tells the three apart, and with
  the built-in composer nothing else fails below the suite.  So the failures are
  attributed if and only if neither of the latter two occurs (`attributes_iff`).
-/
import SuiteCompiler.Proofs.Grammar
import SuiteCompiler.Proofs.WellFormed

namespace SuiteCompiler

open Outcome

/-! ### Places -/

/-- The place of a command, as failures report it, has no part that is null. -/
structure Command.HasPlace (c : Command) : Prop where
  target : c.target ≠ .null
  method : c.method ≠ .null
  groupId : c.groupId ≠ .null
  testId : c.testId ≠ .null

/-- A failure of one of some commands, with the place of that command. -/
def RenderFailure.Names (failure : RenderFailure) (cs : List Command) : Prop :=
  ∃ c ∈ cs, c.HasPlace ∧ ∃ fault, failure = .command (.of c fault)

theorem Value.orElse_text_ne_null (v : Value) (s : String) : v.orElse (.text s) ≠ .null := by
  unfold orElse
  split
  · rintro rfl
    contradiction
  · nofun

theorem Command.KeptFrom.hasPlace {groupId testId : String} {entry : String × Value} {c : Command}
    (h : KeptFrom groupId testId entry c) : c.HasPlace := by
  constructor
  · rw [h.target]
    apply Value.orElse_text_ne_null
  · rw [h.method]
    apply Value.orElse_text_ne_null
  · rw [h.groupId]
    apply Value.orElse_text_ne_null
  · rw [h.testId]
    apply Value.orElse_text_ne_null

theorem exists_of_mem_forall₂ {α β : Type} {R : α → β → Prop} {xs : List α} {ys : List β}
    (h : List.Forall₂ R xs ys) {y : β} (hy : y ∈ ys) : ∃ x ∈ xs, R x y := by
  induction h with
  | nil => cases hy
  | cons hxy _ ih =>
    rcases List.mem_cons.1 hy with rfl | hy
    · exact ⟨_, List.mem_cons_self, hxy⟩
    · obtain ⟨x, hx, hxy⟩ := ih hy
      exact ⟨x, List.mem_cons_of_mem _ hx, hxy⟩

theorem Test.KeptFrom.hasPlace {groupId : String} {entry : String × Value} {kept : String × Test}
    (h : KeptFrom groupId entry kept) : ∀ c ∈ kept.2.commands, c.HasPlace := by
  intro c hc
  obtain ⟨_, -, hkept⟩ := exists_of_mem_forall₂ h.commands hc
  exact hkept.hasPlace

/-- The suite of a document keeps it, whatever its targets are. -/
theorem Suite.keptFrom_of_ok {v : Value} {s : Suite} (h : ofValue v = .ok s) : KeptFrom v s := by
  unfold ofValue at h
  obtain ⟨fields, hfields, h⟩ := bind_eq_ok_iff.1 h
  obtain ⟨listed, hlisted, h⟩ := bind_eq_ok_iff.1 h
  obtain ⟨groups, hgroups, h⟩ := bind_eq_ok_iff.1 h
  obtain ⟨targets, -, rfl⟩ := bind_pure_eq_ok_iff.1 h
  obtain rfl : fields = v.members := (hfields ▸ v.reads_record "suite").kept_of_ok
  obtain rfl : listed = (v.member "groups").members :=
    (hlisted ▸ (v.member "groups").reads_record "suite groups").kept_of_ok
  exact (hgroups ▸ Group.reads_readAll _).kept_of_ok

/-- The library of a document keeps the tests that it lists, in either layout. -/
theorem SnippetLibrary.keptFrom_of_ok {v : Value} {library : SnippetLibrary}
    (h : ofValue v = .ok library) : KeptFrom v library := by
  unfold ofValue at h
  obtain ⟨fields, hfields, h⟩ := bind_eq_ok_iff.1 h
  obtain rfl : fields = v.members := (hfields ▸ v.reads_record "snippets").kept_of_ok
  unfold KeptFrom listedTests
  cases htests : v.members.get? "tests" with
  | some listed =>
    rw [htests] at h
    obtain ⟨tests, htests, h⟩ := bind_eq_ok_iff.1 h
    obtain ⟨targets, -, rfl⟩ := bind_pure_eq_ok_iff.1 h
    exact (htests ▸ Test.reads_allOfValue groupId listed).kept_of_ok
  | none =>
    rw [htests] at h
    obtain ⟨groups, hgroups, h⟩ := bind_eq_ok_iff.1 h
    obtain ⟨group, hgroup, h⟩ := bind_eq_ok_iff.1 h
    obtain ⟨tests, htests, h⟩ := bind_eq_ok_iff.1 h
    obtain ⟨targets, -, rfl⟩ := bind_pure_eq_ok_iff.1 h
    obtain rfl : groups = (v.member "groups").members :=
      (hgroups ▸ (v.member "groups").reads_record "snippet groups").kept_of_ok
    obtain rfl : group = ((v.member "groups").member groupId).members :=
      (hgroup ▸ ((v.member "groups").member groupId).reads_record "snippet group").kept_of_ok
    exact (htests ▸ Test.reads_allOfValue groupId _).kept_of_ok

theorem GeneratorInput.hasPlace {input : GeneratorInput} {suite snippets : Value}
    (hsuite : Suite.ofValue suite = .ok input.suite)
    (hsnippets : SnippetLibrary.ofValue snippets = .ok input.snippets) :
    ∀ c ∈ input.commands, c.HasPlace := by
  intro c hc
  rcases List.mem_append.1 hc with hc | hc
  · obtain ⟨group, hgroup, hc⟩ := List.mem_flatMap.1 hc
    obtain ⟨test, htest, hc⟩ := List.mem_flatMap.1 hc
    obtain ⟨_, -, hkept⟩ := exists_of_mem_forall₂ (Suite.keptFrom_of_ok hsuite) hgroup
    obtain ⟨_, -, hkept⟩ := exists_of_mem_forall₂ hkept.tests htest
    exact hkept.hasPlace c hc
  · obtain ⟨test, htest, hc⟩ := List.mem_flatMap.1 hc
    obtain ⟨_, -, hkept⟩ := exists_of_mem_forall₂ (SnippetLibrary.keptFrom_of_ok hsnippets) htest
    exact hkept.hasPlace c hc

/-! ### The walk over the commands -/

theorem GeneratorInput.mem_commands_of_enabled {input : GeneratorInput} {c : Command}
    (h : c ∈ input.suite.enabledCommands) : c ∈ input.commands := by
  obtain ⟨group, hgroup, h⟩ := List.mem_flatMap.1 h
  obtain ⟨test, htest, hc⟩ := List.mem_flatMap.1 h
  exact mem_commands_of_suite hgroup htest hc

theorem GeneratorInput.mem_commands_of_expand {input : GeneratorInput} {c d : Command}
    (hc : c ∈ input.commands) (hd : d ∈ input.snippets.expand c) : d ∈ input.commands := by
  unfold SnippetLibrary.expand at hd
  split at hd
  · split at hd
    · rename_i test htest
      exact mem_commands_of_snippet htest (List.mem_filter.1 hd).1
    · cases hd
  · obtain rfl := List.mem_singleton.1 hd
    exact hc

theorem SnippetLibrary.isScalar_of_getTest? {library : SnippetLibrary} {ref : Value}
    {found : Option Test} (h : library.getTest? ref = .ok found) : ref.IsScalar := by
  cases ref with
  | list _ => cases h
  | object _ => cases h
  | _ => trivial

theorem SnippetLibrary.not_isScalar_of_getTest? {library : SnippetLibrary} {ref : Value}
    {kind : Kind} (h : library.getTest? ref = .error kind) : ¬ref.IsScalar := by
  cases ref with
  | list _ => exact id
  | object _ => exact id
  | _ => cases h

namespace Generator

variable {g : Generator} {c : Command}

theorem checkPlain_error {failure : RenderFailure} (h : g.checkPlain c = .error failure) :
    ∃ fault, failure = .command (.of c fault) := by
  unfold checkPlain at h
  obtain ⟨fault, -, hfailure⟩ := mapError_eq_error_iff.1 h
  exact ⟨fault, hfailure.symm⟩

/-- The failures of an enabled command name what it stands for, unless it is a reference that
cannot be looked up. -/
theorem names_of_checkCommand_iff (hplace : ∀ d ∈ g.snippets.expand c, d.HasPlace) :
    (∀ failure, g.checkCommand c = .error failure → failure.Names (g.snippets.expand c)) ↔
      (c.isRef = true → c.ref.IsScalar) := by
  unfold checkCommand
  cases href : c.isRef with
  | false =>
    simp only [Bool.false_eq_true, if_false, false_implies, iff_true]
    rw [SnippetLibrary.expand_of_not_isRef href] at hplace ⊢
    intro failure h
    exact ⟨c, List.mem_singleton_self c, hplace c (List.mem_singleton_self c), checkPlain_error h⟩
  | true =>
    simp only [if_true, true_implies]
    cases hfound : g.snippets.getTest? c.ref with
    | error kind =>
      have hnot := SnippetLibrary.not_isScalar_of_getTest? hfound
      simp only [hnot, iff_false, not_forall]
      refine ⟨_, rfl, ?_⟩
      rintro ⟨d, -, -, fault, hd⟩
      cases hd
    | ok found =>
      simp only [SnippetLibrary.isScalar_of_getTest? hfound, iff_true]
      intro failure h
      cases found with
      | none => cases h
      | some test =>
        rw [SnippetLibrary.expand_of_isRef href hfound] at hplace ⊢
        obtain ⟨d, before, after, hcs, -, hd⟩ := forM_eq_error_iff.1 h
        have hmem : d ∈ test.enabledCommands.filter (!·.isRef) := by simp [hcs]
        exact ⟨d, hmem, hplace d hmem, checkPlain_error hd⟩

theorem names_of_renderCommand_iff (hplace : ∀ d ∈ g.snippets.expand c, d.HasPlace) :
    (∀ failure, (g.renderCommand c).outcome = .error failure →
        failure.Names (g.snippets.expand c)) ↔
      (c.disabled = false → c.isRef = true → c.ref.IsScalar) := by
  cases hdisabled : c.disabled with
  | true =>
    have houtcome : (g.renderCommand c).outcome = .ok .empty := by
      unfold renderCommand
      rw [if_pos hdisabled]
      rfl
    simp [houtcome]
  | false =>
    rw [forall_prop_of_true rfl, ← names_of_checkCommand_iff hplace]
    refine forall_congr' fun failure => ?_
    rw [← check_eq_error_iff, check_renderCommand g hdisabled]

/-- The body of a suite fails as one of its enabled commands does. -/
theorem exists_of_renderBody_error (hcomposer : g.schema.composer.TotalBelowSuite)
    {failure : RenderFailure} (h : g.renderBody = .error failure) :
    ∃ c ∈ g.suite.enabledCommands, (g.renderCommand c).outcome = .error failure := by
  have hverdict : g.suite.enabledCommands.forM g.checkCommand = .error failure := by
    rwa [← check_eq_error_iff, check_renderBody g hcomposer, verdict_eq_forM] at h
  obtain ⟨c, before, after, hcs, -, hc⟩ := forM_eq_error_iff.1 hverdict
  have hmem : c ∈ g.suite.enabledCommands := by simp [hcs]
  refine ⟨c, hmem, ?_⟩
  rwa [← check_eq_error_iff, check_renderCommand g (Suite.disabled_of_mem_enabledCommands hmem)]

end Generator

/-! ### Attribution -/

/-- A generation can be set up.  A command that cannot be rendered fails with its own place, or
with that of a command it stands for.  A suite that has no source fails so too, unless its
commands can all be rendered. -/
structure GeneratorInput.AttributesFailures (input : GeneratorInput) : Prop where
  constructs : ∃ g, Generator.ofInput input = .ok g
  commands : ∀ g, Generator.ofInput input = .ok g → ∀ c ∈ input.commands, ∀ failure,
    (g.renderCommand c).outcome = .error failure → failure.Names (input.snippets.expand c)
  generate : ∀ g, Generator.ofInput input = .ok g → ∀ failure,
    g.generate.outcome = .error failure →
      failure.Names (input.suite.encountered input.snippets) ∨
        (∃ body, g.renderBody = .ok body) ∧ ∃ fault, failure = .template fault

namespace Jest

/-- **When failures are attributed.**  For the documents of a suite and of a library, whatever else
a generation with the built-in schema is given, every failure is one of a command and has the
place of that command, or is above the commands, if and only if no declarable target has a list or
an object for a name and no enabled reference has one for a reference. -/
theorem attributesFailures_iff {input : GeneratorInput} {suite snippets : Value}
    (hsuite : Suite.ofValue suite = .ok input.suite)
    (hsnippets : SnippetLibrary.ofValue snippets = .ok input.snippets)
    (hschema : input.schema = schema) (hillegal : ∀ v ∈ input.illegalMethods, v.IsScalar) :
    input.AttributesFailures ↔
      (∀ t ∈ input.resolver.snippets ++ input.resolver.suite, t.name.IsScalar) ∧
        ∀ c ∈ input.commands, c.disabled = false → c.isRef = true → c.ref.IsScalar := by
  have hplace : ∀ c ∈ input.commands, ∀ d ∈ input.snippets.expand c, d.HasPlace :=
    fun c hc d hd => GeneratorInput.hasPlace hsuite hsnippets d
      (GeneratorInput.mem_commands_of_expand hc hd)
  have hset : (∃ g, Generator.ofInput input = .ok g) ↔
      ∀ t ∈ input.resolver.snippets ++ input.resolver.suite, t.name.IsScalar := by
    rw [Generator.exists_ofInput_iff, and_iff_right hillegal]
  constructor
  · intro h
    obtain ⟨g, hg⟩ := h.constructs
    have hcommands := h.commands g hg
    refine ⟨hset.1 h.constructs, ?_⟩
    obtain rfl := Generator.toGeneratorInput_of_ofInput hg
    exact fun c hc => (Generator.names_of_renderCommand_iff (hplace c hc)).1 (hcommands c hc)
  · rintro ⟨hnames, hrefs⟩
    have hcommands : ∀ g, Generator.ofInput input = .ok g → ∀ c ∈ input.commands, ∀ failure,
        (g.renderCommand c).outcome = .error failure →
          failure.Names (input.snippets.expand c) := by
      intro g hg c hc
      obtain rfl := Generator.toGeneratorInput_of_ofInput hg
      exact (Generator.names_of_renderCommand_iff (hplace c hc)).2 (hrefs c hc)
    refine ⟨hset.2 hnames, hcommands, ?_⟩
    intro g hg failure hfailure
    rw [Generator.outcome_generate] at hfailure
    cases hbody : g.renderBody with
    | ok body =>
      right
      refine ⟨⟨body, rfl⟩, ?_⟩
      rw [hbody, ok_bind] at hfailure
      obtain ⟨fault, -, htemplate⟩ := mapError_eq_error_iff.1 hfailure
      exact ⟨fault, htemplate.symm⟩
    | error failure' =>
      -- nothing between the commands and the suite fails, so a command does
      left
      rw [hbody, error_bind] at hfailure
      obtain rfl := Except.error.inj hfailure
      have hinput := Generator.toGeneratorInput_of_ofInput hg
      have htotal : g.schema.composer.TotalBelowSuite := by
        rw [hinput, hschema]
        exact composer_totalBelowSuite
      obtain ⟨c, hc, hrender⟩ := Generator.exists_of_renderBody_error htotal hbody
      rw [hinput] at hc
      obtain ⟨d, hd, hnamed⟩ :=
        hcommands g hg c (GeneratorInput.mem_commands_of_enabled hc) failure' hrender
      refine ⟨d, ?_, hnamed⟩
      rw [Suite.encountered_eq]
      exact List.mem_flatMap.2 ⟨c, hc, hd⟩

/-- A document with a target, a reference, and a command whose target is a list. -/
def referringDocument (name ref : Value) : Value :=
  .object [
    ("title", .text "Shop"),
    ("targets", .object [("1", .object [("target", name), ("selector", .text "#buy")])]),
    ("groups", .object [("g", .object [
      ("tests", .object [("t", .object [
        ("commands", .object [
          ("c", .object [("isRef", .bool true), ("ref", ref)]),
          ("d", .object [("target", .list [.text "BUY"]), ("method", .text "click")])])])])])])]

/-- What the document says if its target has a name. -/
def referringInput (name ref : Value) : GeneratorInput where
  suite :=
    { title := .text "Shop"
      targets := [(.text "1", ⟨name, .text "#buy", .text "1"⟩)]
      groups := [("g", {
        id := "g", title := .empty, disabled := false
        tests := [("t", {
          id := "t", title := .empty, disabled := false
          commands := [
            { Command.acting "c" "" "" "g" "t" with isRef := true, ref },
            { Command.acting "d" "" "click" "g" "t" with target := .list [.text "BUY"] }] })] })] }
  schema

theorem ofValue_referringDocument {name : Value} (h : name.isTruthy = true) (ref : Value) :
    Suite.ofValue (referringDocument name ref) = .ok (referringInput name ref).suite := by
  have hread : Suite.ofValue (referringDocument name ref) =
      .ok (referringInput (name.orElse .empty) ref).suite := rfl
  rw [hread, Value.orElse_of_isTruthy h]

theorem commands_referringInput (name ref : Value) : (referringInput name ref).commands =
    [{ Command.acting "c" "" "" "g" "t" with isRef := true, ref },
      { Command.acting "d" "" "click" "g" "t" with target := .list [.text "BUY"] }] := rfl

theorem isScalar_illegalMethods (name ref : Value) :
    ∀ v ∈ (referringInput name ref).illegalMethods, v.IsScalar := by
  intro v hv
  obtain ⟨method, -, rfl⟩ := List.mem_map.1 hv
  trivial

/-- A reference by a number is looked up in vain, and the command whose target is a list is named.
A reference by a list is not named. -/
theorem failures_of_referring :
    (referringInput (.text "BUY") (.int 7)).AttributesFailures ∧
      ¬(referringInput (.text "BUY") (.list [.text "login"])).AttributesFailures := by
  have htruthy : (Value.text "BUY").isTruthy = true := by decide
  have hsuite := ofValue_referringDocument htruthy
  have hsnippets : SnippetLibrary.ofValue .null = .ok SnippetLibrary.empty := rfl
  constructor
  · refine (attributesFailures_iff (hsuite (.int 7)) hsnippets rfl
      (isScalar_illegalMethods _ _)).2 ⟨?_, ?_⟩
    · intro t ht
      obtain rfl := List.mem_singleton.1 ht
      trivial
    · intro c hc
      rw [commands_referringInput] at hc
      rcases List.mem_pair.1 hc with rfl | rfl
      · exact fun _ _ => trivial
      · exact fun _ _ => trivial
  · intro h
    have hiff := attributesFailures_iff (hsuite (.list [.text "login"])) hsnippets rfl
      (isScalar_illegalMethods _ _)
    exact (hiff.1 h).2 _ List.mem_cons_self rfl rfl

/-- The failure of a reference by a list has no place, and a target with a list for a name keeps
the generation from being set up. -/
theorem reference_by_list_has_no_place :
    (∃ suite g, Suite.ofValue (referringDocument (.text "BUY") (.list [.text "login"])) = .ok suite ∧
      Generator.ofInput { suite, schema } = .ok g ∧
      (∃ c ∈ g.commands, (g.renderCommand c).outcome = .error (.template (.unhashable .list))) ∧
      g.generate.outcome = .error (.template (.unhashable .list))) ∧
    ∃ suite, Suite.ofValue (referringDocument (.list [.text "BUY"]) (.text "login")) = .ok suite ∧
      Generator.ofInput { suite, schema } = .error (.unhashable .list) := by
  constructor
  · refine ⟨_, { referringInput (.text "BUY") (.list [.text "login"]) with
      selectors := [(.text "BUY", .text "#buy")], selectors_eq := rfl }, rfl, rfl, ?_, rfl⟩
    exact ⟨_, List.mem_cons_self, rfl⟩
  · exact ⟨_, rfl, rfl⟩

end Jest

end SuiteCompiler
