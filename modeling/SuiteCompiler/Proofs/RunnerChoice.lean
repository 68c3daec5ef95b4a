/-
  SuiteCompiler/Proofs/RunnerChoice.lean
  ======================================
  The two ways to name a runner.

  The option and the variable both look a name up in lower case, but white space around
  it is taken from the value of the variable alone.  Lower case leaves white space where
  it is (`mem_lower_of_isBlank`), so a name that the option knows has none, and the
  variable knows it too.  The other way round a name with white space around it makes
  the difference (`IsPadded`).  A name that neither knows is reported in a message, and
  it is the message that decides whether the run has a status then.
-/
import SuiteCompiler.Proofs.CommaLists
import SuiteCompiler.Proofs.Delivery

namespace SuiteCompiler

open Outcome

namespace Text

/-! ### White space in lower case -/

theorem blankRanges_apart : ∀ range ∈ Number.blankRanges, ∀ run ∈ lowerRuns,
    range.2 < run.1 ∨ run.2.1 < range.1 := by
  decide +kernel

/-- White space has no lower case. -/
theorem lowerChar_of_isBlank {c : Char} (h : isBlank c = true) : lowerChar c = [c] := by
  obtain ⟨range, hrange, hfrom, hto⟩ := Number.exists_blankRange h
  have hdotted : c ≠ '\u0130' := by
    rintro rfl
    exact absurd h (by decide)
  have hnone : lowerRuns.find? (fun run =>
      run.1 ≤ c.toNat && c.toNat ≤ run.2.1 && (c.toNat - run.1) % run.2.2.1 == 0) = none := by
    rw [List.find?_eq_none]
    intro run hrun hholds
    simp only [Bool.and_eq_true, decide_eq_true_eq] at hholds
    obtain ⟨⟨hfirst, hlast⟩, -⟩ := hholds
    rcases blankRanges_apart range hrange run hrun with hbelow | habove
    · omega
    · omega
  unfold lowerChar
  rw [if_neg hdotted]
  dsimp only
  rw [hnone]

theorem mem_lowerFrom_of_isBlank {before cs : List Char} {c : Char} (hc : c ∈ cs)
    (h : isBlank c = true) : c ∈ lowerFrom before cs := by
  induction cs generalizing before with
  | nil => cases hc
  | cons d cs ih =>
    rw [lowerFrom, List.mem_append]
    rcases List.mem_cons.1 hc with rfl | hc
    · left
      have hsigma : c ≠ 'Σ' := by
        rintro rfl
        exact absurd h (by decide)
      rw [if_neg hsigma, lowerChar_of_isBlank h]
      exact List.mem_singleton_self c
    · exact Or.inr (ih hc)

theorem mem_lower_of_isBlank {s : String} {c : Char} (hc : c ∈ s.toList) (h : isBlank c = true) :
    c ∈ (lower s).toList := by
  rw [lower, String.toList_ofList]
  exact mem_lowerFrom_of_isBlank hc h

theorem strip_of_noBlank {s : String} (h : ∀ c ∈ s.toList, isBlank c = false) : strip s = s := by
  refine strip_eq_iff.2 ⟨⟨fun c hc => ?_, fun c hc => ?_⟩, holds_self s⟩
  · exact h c (List.mem_of_head? hc)
  · exact h c (List.mem_of_getLast? hc)

end Text

theorem Runner.eq_name_of_ofName? {s : String} {runner : Runner} (h : ofName? s = some runner) :
    s = runner.name := by
  have hname := List.find?_some h
  exact (of_decide_eq_true hname).symm

/-- A name that is known as it stands has no white space around it. -/
theorem Runner.strip_of_ofName?_lower {s : String} {runner : Runner}
    (h : ofName? (Text.lower s) = some runner) : Text.strip s = s := by
  have hblank : (runner.name.toList.all fun c => !Text.isBlank c) = true := by
    cases runner with
    | embedded => decide
    | exported => decide
  refine Text.strip_of_noBlank fun c hc => ?_
  by_contra hnot
  have hlower := Text.mem_lower_of_isBlank hc (by simpa using hnot)
  rw [eq_name_of_ofName? h] at hlower
  exact hnot (by simpa using List.all_eq_true.1 hblank c hlower)

/-! ### The configuration -/

namespace Configuration

variable {env : Environment}

/-- The runner that an environment configures. -/
def runnerOf (env : Environment) : Except ConfigurationFault Runner :=
  ((env.lookup runnerVariable).map parseRunner).getD (.ok .exported)

/-- The level that an environment configures. -/
def levelOf (env : Environment) : Except ConfigurationFault LogLevel :=
  ((env.lookup logLevelVariable).map parseLogLevel).getD (.ok .warning)

/-- An environment configures a runner if the runner and the level can be read. -/
theorem exists_runner_iff {runner : Runner} :
    (∃ config : Configuration, ofEnvironment env = .ok config ∧ config.runner = runner) ↔
      runnerOf env = .ok runner ∧ ∃ level, levelOf env = .ok level := by
  unfold ofEnvironment
  simp only [bind_eq_ok_iff]
  constructor
  · rintro ⟨config, ⟨configured, hrunner, level, hlevel, hconfig⟩, rfl⟩
    obtain rfl := Except.ok.inj hconfig
    exact ⟨hrunner, level, hlevel⟩
  · rintro ⟨hrunner, level, hlevel⟩
    exact ⟨_, ⟨runner, hrunner, level, hlevel, rfl⟩, rfl⟩

theorem runnerOf_cons (name : String) : runnerOf ((runnerVariable, name) :: env) = parseRunner name := by
  rw [runnerOf, List.lookup_cons_self, Option.map_some, Option.getD_some]

theorem levelOf_cons (name : String) : levelOf ((runnerVariable, name) :: env) = levelOf env := by
  unfold levelOf
  rw [List.lookup_cons, show (logLevelVariable == runnerVariable) = false by decide]

theorem parseRunner_eq_ok_iff {name : String} {runner : Runner} :
    parseRunner name = .ok runner ↔
      Runner.ofName? (Text.lower (Text.strip name)) = some runner := by
  unfold parseRunner
  split <;> simp [*]

end Configuration

namespace CommandLine

open SuiteCompiler.Configuration

variable {files : Files} {env : Environment} {ga : GenerateArguments} {name : String}
  {runner : Runner}

/-- The runner of a generation. -/
def Selects (env : Environment) (ga : GenerateArguments) (runner : Runner) : Prop :=
  ∃ config, ofEnvironment env = .ok config ∧ selectRunner config ga.runner = .ok runner

/-- A name is known without the white space around it, and it has some. -/
def IsPadded (name : String) : Prop :=
  Text.strip name ≠ name ∧ ∃ runner, Runner.ofName? (Text.lower (Text.strip name)) = some runner

/-- A generation is rejected with a message before anything is loaded. -/
inductive Rejects (env : Environment) (ga : GenerateArguments) : String → Prop where
  | configuration {fault : ConfigurationFault} (h : ofEnvironment env = .error fault) :
      Rejects env ga s!"[red]Configuration error:[/red] {fault.message}"
  | runner {config : Configuration} {name : String} (hconfig : ofEnvironment env = .ok config)
      (h : selectRunner config ga.runner = .error name) :
      Rejects env ga s!"[red]Error:[/red] Unknown runner '{name}' ({Runner.names})"

/-- A generation has a runner, or else it is rejected. -/
theorem selects_or_rejects (env : Environment) (ga : GenerateArguments) :
    (∃ runner, Selects env ga runner) ∨ ∃ markup, Rejects env ga markup := by
  cases hconfig : ofEnvironment env with
  | error fault => exact Or.inr ⟨_, .configuration hconfig⟩
  | ok config =>
    cases hrunner : selectRunner config ga.runner with
    | error name => exact Or.inr ⟨_, .runner hconfig hrunner⟩
    | ok runner => exact Or.inl ⟨runner, config, hconfig, hrunner⟩

theorem Selects.not_rejects (h : Selects env ga runner) {markup : String} :
    ¬Rejects env ga markup := by
  obtain ⟨config, hconfig, hrunner⟩ := h
  intro hrejects
  cases hrejects with
  | configuration h =>
    rw [hconfig] at h
    cases h
  | runner hconfig' h =>
    obtain rfl := Except.ok.inj (hconfig.symm.trans hconfig')
    rw [hrunner] at h
    cases h

theorem generate_of_rejects {markup : String} (h : Rejects env ga markup) :
    generate files env ga = stop 2 markup := by
  unfold generate
  cases h with
  | configuration h => rw [h]
  | runner hconfig h =>
    rw [hconfig]
    dsimp only
    rw [h]

theorem Rejects.unique {markup other : String} (h : Rejects env ga markup)
    (h' : Rejects env ga other) : markup = other := by
  cases h with
  | configuration h =>
    cases h' with
    | configuration h' => rw [Except.error.inj (h.symm.trans h')]
    | runner hconfig h' =>
      rw [h] at hconfig
      cases hconfig
  | runner hconfig h =>
    cases h' with
    | configuration h' =>
      rw [hconfig] at h'
      cases h'
    | runner hconfig' h' =>
      obtain rfl := Except.ok.inj (hconfig.symm.trans hconfig')
      rw [Except.error.inj (h.symm.trans h')]

/-- A rejected run has its status if the message can be printed. -/
theorem Rejects.ending_iff {markup : String} (h : Rejects env ga markup)
    (screen : Console.Screen) (files : Files) :
    ((generate files env ga).perform screen files).ending = .exit 2 ↔
      ∃ text, Console.Message.render markup = .ok text := by
  rw [generate_of_rejects h, stop, Report.perform, Transcript.perform]
  cases Console.Message.render markup with
  | error fault => simp
  | ok text => simp [Transcript.perform]

/-- A run that is told a runner by the option. -/
theorem selects_told_iff (hname : name ≠ "") {configured : Runner}
    (henv : runnerOf env = .ok configured) :
    Selects env { ga with runner := some name } runner ↔
      (∃ level, levelOf env = .ok level) ∧
        Runner.ofName? (Text.lower name) = some runner := by
  have hselect : ∀ config, selectRunner config (some name) = .ok runner ↔
      Runner.ofName? (Text.lower name) = some runner := by
    intro config
    rw [selectRunner, if_neg hname]
    split <;> simp [*]
  have hconfig : (∃ config, ofEnvironment env = .ok config) ↔ ∃ level, levelOf env = .ok level := by
    have hiff := @exists_runner_iff env configured
    rw [and_iff_right henv] at hiff
    rw [← hiff]
    constructor
    · rintro ⟨config, hconfig⟩
      obtain ⟨hrunner, -⟩ := exists_runner_iff.1 ⟨config, hconfig, rfl⟩
      exact ⟨config, hconfig, Except.ok.inj (hrunner.symm.trans henv)⟩
    · rintro ⟨config, hconfig, -⟩
      exact ⟨config, hconfig⟩
  unfold Selects
  simp only [hselect]
  rw [exists_and_right, hconfig]

/-- A run that is told a runner by the variable. -/
theorem selects_untold_iff :
    Selects ((runnerVariable, name) :: env) { ga with runner := none } runner ↔
      (∃ level, levelOf env = .ok level) ∧
        Runner.ofName? (Text.lower (Text.strip name)) = some runner := by
  have hiff := @exists_runner_iff ((runnerVariable, name) :: env) runner
  rw [runnerOf_cons, levelOf_cons, parseRunner_eq_ok_iff] at hiff
  rw [and_comm, ← hiff]
  refine exists_congr fun config => and_congr_right fun _ => ?_
  exact ⟨Except.ok.inj, congrArg Except.ok⟩

/-- Two runs have the same runner, or both end with the status of a run that could not begin. -/
def ChooseAlike (env env' : Environment) (ga ga' : GenerateArguments) (ending ending' : Ending) :
    Prop :=
  (∃ runner, Selects env ga runner ∧ Selects env' ga' runner) ∨
    ending = .exit 2 ∧ ending' = .exit 2

/-- Runs that are both rejected choose alike if both messages can be printed. -/
theorem chooseAlike_iff_of_rejects (screen : Console.Screen) {env' : Environment} {ga' : GenerateArguments}
    {markup markup' : String} (h : Rejects env ga markup) (h' : Rejects env' ga' markup') :
    ChooseAlike env env' ga ga' ((generate files env ga).perform screen files).ending
        ((generate files env' ga').perform screen files).ending ↔
      (∃ text, Console.Message.render markup = .ok text) ∧
        ∃ text, Console.Message.render markup' = .ok text := by
  unfold ChooseAlike
  rw [h.ending_iff, h'.ending_iff]
  refine or_iff_right ?_
  rintro ⟨runner, hselects, -⟩
  exact hselects.not_rejects h

theorem chooseAlike_iff (screen : Console.Screen) (files : Files) (ga : GenerateArguments)
    (hname : name ≠ "") {configured : Runner} (henv : runnerOf env = .ok configured) :
    ChooseAlike env ((runnerVariable, name) :: env) { ga with runner := some name }
        { ga with runner := none }
        ((generate files env { ga with runner := some name }).perform screen files).ending
        ((generate files ((runnerVariable, name) :: env) { ga with runner := none }).perform
          screen files).ending ↔
      (∀ markup, Rejects env { ga with runner := some name } markup ∨
          Rejects ((runnerVariable, name) :: env) { ga with runner := none } markup →
        ∃ text, Console.Message.render markup = .ok text) ∧
      (IsPadded name →
        ((generate files ((runnerVariable, name) :: env) { ga with runner := none }).perform
          screen files).ending = .exit 2) := by
  rcases selects_or_rejects env { ga with runner := some name } with
    ⟨runner, htold⟩ | ⟨markup, htold⟩
  · -- the option knows the name, so it has no white space around it
    obtain ⟨hlevel, hknown⟩ := (selects_told_iff hname henv).1 htold
    have hstrip := Runner.strip_of_ofName?_lower hknown
    have huntold : Selects ((runnerVariable, name) :: env) { ga with runner := none } runner :=
      selects_untold_iff.2 ⟨hlevel, by rwa [hstrip]⟩
    refine iff_of_true (Or.inl ⟨runner, htold, huntold⟩) ⟨?_, fun hpadded => ?_⟩
    · rintro markup (hrejects | hrejects)
      · exact absurd hrejects htold.not_rejects
      · exact absurd hrejects huntold.not_rejects
    · exact absurd hstrip hpadded.1
  · rcases selects_or_rejects ((runnerVariable, name) :: env) { ga with runner := none } with
      ⟨runner, huntold⟩ | ⟨markup', huntold⟩
    · -- only the variable knows the name
      obtain ⟨hlevel, hknown⟩ := selects_untold_iff.1 huntold
      have hpadded : IsPadded name := by
        refine ⟨fun hstrip => ?_, runner, hknown⟩
        rw [hstrip] at hknown
        exact ((selects_told_iff hname henv).2 ⟨hlevel, hknown⟩).not_rejects htold
      have hrejections : (∀ other, Rejects env { ga with runner := some name } other ∨
          Rejects ((runnerVariable, name) :: env) { ga with runner := none } other →
            ∃ text, Console.Message.render other = .ok text) ↔
          ∃ text, Console.Message.render markup = .ok text := by
        refine ⟨fun h => h markup (Or.inl htold), ?_⟩
        rintro hprinted other (hrejects | hrejects)
        · rwa [hrejects.unique htold]
        · exact absurd hrejects huntold.not_rejects
      rw [hrejections, forall_prop_of_true hpadded, ← htold.ending_iff screen files]
      refine or_iff_right ?_
      rintro ⟨other, hselects, -⟩
      exact hselects.not_rejects htold
    · rw [chooseAlike_iff_of_rejects screen htold huntold]
      constructor
      · rintro ⟨hprinted, hprinted'⟩
        refine ⟨?_, fun _ => (huntold.ending_iff screen files).2 hprinted'⟩
        rintro other (hrejects | hrejects)
        · rwa [hrejects.unique htold]
        · rwa [hrejects.unique huntold]
      · rintro ⟨hall, -⟩
        exact ⟨hall markup (Or.inl htold), hall markup' (Or.inr huntold)⟩

/-- **When the two ways to name a runner agree.**  A name that is not empty is given by the option in
one run, and by the variable in another that is the same but for that; the variable is not set in
the first one, or it names a runner there.  The runs have the same runner, or both end with status
two, if and only if the messages that reject either of them can be printed and, in case there is
white space around the name of a runner, the run with the variable ends with status two for another
reason. -/
theorem runners_are_chosen_alike_iff (screen : Console.Screen) {args args' : List String}
    (hname : name ≠ "")
    (hoption : Invocation.ofArguments args = .generate { ga with runner := some name })
    (hvariable : Invocation.ofArguments args' = .generate { ga with runner := none })
    (henv : ∃ configured, runnerOf env = .ok configured) :
    ∃ report report', run? files env args = some report ∧
      run? files ((runnerVariable, name) :: env) args' = some report' ∧
      (ChooseAlike env ((runnerVariable, name) :: env) { ga with runner := some name }
          { ga with runner := none } (report.perform screen files).ending
          (report'.perform screen files).ending ↔
        (∀ markup, Rejects env { ga with runner := some name } markup ∨
            Rejects ((runnerVariable, name) :: env) { ga with runner := none } markup →
          ∃ text, Console.Message.render markup = .ok text) ∧
        (IsPadded name → (report'.perform screen files).ending = .exit 2)) := by
  obtain ⟨configured, hconfigured⟩ := henv
  exact ⟨_, _, run?_of_generate hoption, run?_of_generate hvariable,
    chooseAlike_iff screen files ga hname hconfigured⟩

/-- A name is known in any case of its letters, in both ways. -/
theorem embedded_is_chosen_alike :
    ∃ report report',
      run? emptySuite [] ["generate", "s.json", "--runner", "Embedded"] = some report ∧
      run? emptySuite [(runnerVariable, "Embedded")] ["generate", "s.json"] = some report' ∧
      ChooseAlike [] [(runnerVariable, "Embedded")]
        { suitePath := "s.json", runner := some "Embedded" } { suitePath := "s.json" }
        (report.perform .endless emptySuite).ending (report'.perform .endless emptySuite).ending := by
  have hknown : Runner.ofName? (Text.lower "Embedded") = some .embedded := by decide +kernel
  have hstrip := Runner.strip_of_ofName?_lower hknown
  have htold : Selects [] { suitePath := "s.json", runner := some "Embedded" } .embedded :=
    (@selects_told_iff [] { suitePath := "s.json" } "Embedded" .embedded (by decide) .exported
      rfl).2 ⟨⟨.warning, rfl⟩, hknown⟩
  have huntold : Selects [(runnerVariable, "Embedded")] { suitePath := "s.json" } .embedded :=
    (@selects_untold_iff [] { suitePath := "s.json" } "Embedded" .embedded).2
      ⟨⟨.warning, rfl⟩, by rwa [hstrip]⟩
  obtain ⟨report, report', hrun, hrun', hiff⟩ :=
    @runners_are_chosen_alike_iff emptySuite [] { suitePath := "s.json" } "Embedded"
      .endless ["generate", "s.json", "--runner", "Embedded"] ["generate", "s.json"] (by decide)
      (by decide) (by decide) ⟨.exported, rfl⟩
  refine ⟨report, report', hrun, hrun', hiff.2 ⟨?_, fun hpadded => absurd hstrip hpadded.1⟩⟩
  rintro markup (hrejects | hrejects)
  · exact absurd hrejects htold.not_rejects
  · exact absurd hrejects huntold.not_rejects

/-- Runs do not choose alike if the option does not know the name and one of them does not end with
status two. -/
theorem not_chooseAlike (ga : GenerateArguments) (hname : name ≠ "")
    (hunknown : Runner.ofName? (Text.lower name) = none) {ending ending' : Ending}
    (hending : ending ≠ .exit 2 ∨ ending' ≠ .exit 2) :
    ¬ChooseAlike [] [(runnerVariable, name)] { ga with runner := some name }
      { ga with runner := none } ending ending' := by
  rintro (⟨runner, htold, -⟩ | ⟨htold, huntold⟩)
  · have hknown := ((@selects_told_iff [] ga name runner hname .exported rfl).1 htold).2
    rw [hunknown] at hknown
    cases hknown
  · rcases hending with hending | hending
    · exact hending htold
    · exact hending huntold

/-- White space before a name keeps the option alone from knowing it, and the message about a name
that neither knows can keep both runs from having a status. -/
theorem runners_are_chosen_differently :
    (∃ report report',
      run? emptySuite [] ["generate", "s.json", "--runner", " embedded"] = some report ∧
      run? emptySuite [(runnerVariable, " embedded")] ["generate", "s.json"] = some report' ∧
      ¬ChooseAlike [] [(runnerVariable, " embedded")]
        { suitePath := "s.json", runner := some " embedded" } { suitePath := "s.json" }
        (report.perform .endless emptySuite).ending (report'.perform .endless emptySuite).ending) ∧
    ∃ report report',
      run? emptySuite [] ["generate", "s.json", "--runner", "[/x]"] = some report ∧
      run? emptySuite [(runnerVariable, "[/x]")] ["generate", "s.json"] = some report' ∧
      ¬ChooseAlike [] [(runnerVariable, "[/x]")]
        { suitePath := "s.json", runner := some "[/x]" } { suitePath := "s.json" }
        (report.perform .endless emptySuite).ending (report'.perform .endless emptySuite).ending := by
  have huntold : Invocation.ofArguments ["generate", "s.json"] =
      .generate { suitePath := "s.json" } := by decide
  constructor
  · have htold : Invocation.ofArguments ["generate", "s.json", "--runner", " embedded"] =
        .generate { suitePath := "s.json", runner := some " embedded" } := by decide
    have hending : ((generate emptySuite [(runnerVariable, " embedded")]
        { suitePath := "s.json" }).perform .endless emptySuite).ending = .exit 0 := by decide +kernel
    refine ⟨_, _, run?_of_generate htold, run?_of_generate huntold, ?_⟩
    refine not_chooseAlike { suitePath := "s.json" } (by decide) (by decide +kernel) (Or.inr ?_)
    rw [hending]
    exact nofun
  · have htold : Invocation.ofArguments ["generate", "s.json", "--runner", "[/x]"] =
        .generate { suitePath := "s.json", runner := some "[/x]" } := by decide
    have hending : ((generate emptySuite [] { suitePath := "s.json", runner := some "[/x]" }).perform
        .endless emptySuite).ending = .crash (.message .markup) := by decide +kernel
    refine ⟨_, _, run?_of_generate htold, run?_of_generate huntold, ?_⟩
    refine not_chooseAlike { suitePath := "s.json" } (by decide) (by decide +kernel) (Or.inl ?_)
    rw [hending]
    exact nofun

end CommandLine

end SuiteCompiler
