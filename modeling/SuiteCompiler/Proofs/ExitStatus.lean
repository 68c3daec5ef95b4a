/-
  SuiteCompiler/Proofs/ExitStatus.lean
  ====================================
  What the status of a run tells of its inputs.

  The status is to say where a generation got to: two if it could not begin, since the
  configuration, the runner or a document cannot be used, one if everything was loaded
  and a command or the suite cannot be rendered, nought if there is a source
  (`Classifies`).  What can be used is said here of the inputs themselves: the variables,
  the name of the runner, and the documents by their grammar (`InputsLoad`).

  Three things end a run without a status.  One is a fault of loading that no caller is
  told of, which the limits of `Files.WithinLimits` and `Files.HasScalarIds` keep out.
  One is a source that cannot be encoded, which takes a document with half of a pair in
  a text (`readsHalves`).  The third comes after loading: a target that can be declared
  has a list or an object for a name.  Within the limits, and without halves, it is the
  only one (`classifies_iff`).
-/
import SuiteCompiler.Proofs.LoadFaults
import SuiteCompiler.Proofs.Transcripts
import SuiteCompiler.Proofs.WellFormed

namespace SuiteCompiler

open Outcome

/-! ### The configuration and the runner -/

/-- The runner and the level that an environment names, if it does, are known. -/
structure Configuration.IsValid (env : Environment) : Prop where
  runner : ∀ value, env.lookup runnerVariable = some value →
    ∃ runner, Runner.ofName? (Text.lower (Text.strip value)) = some runner
  logLevel : ∀ value, env.lookup logLevelVariable = some value →
    ∃ level, LogLevel.ofName? (Text.upper (Text.strip value)) = some level

/-- A runner that is named on the command line is known; an empty name is none. -/
def GenerateArguments.NamesRunner (ga : GenerateArguments) : Prop :=
  ∀ name, ga.runner = some name → name = "" ∨ ∃ runner, Runner.ofName? (Text.lower name) = some runner

namespace Configuration

theorem exists_parseRunner_iff {value : String} :
    (∃ runner, parseRunner value = .ok runner) ↔
      ∃ runner, Runner.ofName? (Text.lower (Text.strip value)) = some runner := by
  unfold parseRunner
  split <;> simp [*]

theorem exists_parseLogLevel_iff {value : String} :
    (∃ level, parseLogLevel value = .ok level) ↔
      ∃ level, LogLevel.ofName? (Text.upper (Text.strip value)) = some level := by
  unfold parseLogLevel
  split <;> simp [*]

/-- A variable has a default, so it can only fail if it is set. -/
theorem exists_getD_iff {α ε : Type} {set : Option String} {parse : String → Except ε α} {a : α} :
    (∃ b, (set.map parse).getD (.ok a) = .ok b) ↔
      ∀ value, set = some value → ∃ b, parse value = .ok b := by
  cases set with
  | none => simp
  | some value => simp

theorem exists_ofEnvironment_iff {env : Environment} :
    (∃ config, ofEnvironment env = .ok config) ↔ IsValid env := by
  have hiff : (∃ config, ofEnvironment env = .ok config) ↔
      (∃ runner, ((env.lookup runnerVariable).map parseRunner).getD (.ok .exported) = .ok runner) ∧
        ∃ level, ((env.lookup logLevelVariable).map parseLogLevel).getD (.ok .warning) =
          .ok level := by
    unfold ofEnvironment
    simp only [bind_eq_ok_iff, pure_eq_ok, Except.ok.injEq]
    constructor
    · rintro ⟨config, runner, hrunner, level, hlevel, -⟩
      exact ⟨⟨runner, hrunner⟩, level, hlevel⟩
    · rintro ⟨⟨runner, hrunner⟩, level, hlevel⟩
      exact ⟨_, runner, hrunner, level, hlevel, rfl⟩
  rw [hiff, exists_getD_iff, exists_getD_iff]
  simp only [exists_parseRunner_iff, exists_parseLogLevel_iff]
  exact ⟨fun h => ⟨h.1, h.2⟩, fun h => ⟨h.1, h.2⟩⟩

end Configuration

theorem CommandLine.exists_selectRunner_iff (config : Configuration) (ga : GenerateArguments) :
    (∃ runner, selectRunner config ga.runner = .ok runner) ↔ ga.NamesRunner := by
  unfold GenerateArguments.NamesRunner selectRunner
  cases ga.runner with
  | none => simp
  | some name =>
    by_cases hname : name = ""
    · simp [hname]
    · cases hrunner : Runner.ofName? (Text.lower name) with
      | none => simp [hname, hrunner]
      | some runner => simp [hname, hrunner]

/-! ### The documents -/

namespace Files

variable {files : Files} {path : String}

def HasSuite (files : Files) (path : String) : Prop :=
  ∃ fields, files.loadObject path = .ok fields ∧ Suite.IsDocument (.object fields)

def HasSnippets (files : Files) (path : String) : Prop :=
  ∃ fields, files.loadObject path = .ok fields ∧ SnippetLibrary.IsDocument (.object fields)

theorem accept_eq_ok_iff {α : Type} {outcome : Except ModelFault α} {a : α} :
    accept path outcome = .ok a ↔ outcome = .ok a := by
  unfold accept
  split <;> simp

/-- A document is loaded if there is an object that its reader accepts. -/
theorem exists_load_iff {α : Type} {ofValue : Value → Except ModelFault α} :
    (∃ a, (files.loadObject path >>= fun fields => accept path (ofValue (.object fields))) =
        .ok a) ↔
      ∃ fields, files.loadObject path = .ok fields ∧ ∃ a, ofValue (.object fields) = .ok a := by
  simp only [bind_eq_ok_iff, accept_eq_ok_iff]
  constructor
  · rintro ⟨a, fields, hfields, ha⟩
    exact ⟨fields, hfields, a, ha⟩
  · rintro ⟨fields, hfields, a, ha⟩
    exact ⟨a, fields, hfields, ha⟩

theorem exists_loadSuite_iff (hids : files.HasScalarIds path) :
    (∃ s, files.loadSuite path = .ok s) ↔ files.HasSuite path := by
  unfold loadSuite HasSuite
  rw [exists_load_iff]
  refine exists_congr fun fields => and_congr_right fun hfields => ?_
  exact (Suite.reads_ofValue (hids fields hfields)).exists_ok_iff

theorem exists_loadSnippets_iff {snippetsPath : Option String}
    (hids : ∀ path, snippetsPath = some path → files.HasScalarIds path) :
    (∃ library, files.loadSnippets snippetsPath = .ok library) ↔
      ∀ path, snippetsPath = some path → files.HasSnippets path := by
  cases snippetsPath with
  | none => simp [loadSnippets]
  | some path =>
    simp only [Option.some.injEq, forall_eq'] at hids ⊢
    unfold loadSnippets HasSnippets
    rw [exists_load_iff]
    refine exists_congr fun fields => and_congr_right fun hfields => ?_
    exact (SnippetLibrary.reads_ofValue (hids fields hfields)).exists_ok_iff

theorem WithinLimits.isDocumented_of_loadSuite (h : files.WithinLimits path)
    (hids : files.HasScalarIds path) {fault : LoadFault}
    (hload : files.loadSuite path = .error fault) : fault.IsDocumented path := by
  refine h.isDocumented_of_load hids (fun v hv modelFault hfault => ?_) hload
  exact (hfault ▸ Suite.reads_ofValue hv).structural_of_error

theorem WithinLimits.isDocumented_of_loadSnippets (h : files.WithinLimits path)
    (hids : files.HasScalarIds path) {fault : LoadFault}
    (hload : files.loadSnippets (some path) = .error fault) : fault.IsDocumented path := by
  refine h.isDocumented_of_load hids (fun v hv modelFault hfault => ?_) hload
  exact (hfault ▸ SnippetLibrary.reads_ofValue hv).structural_of_error

end Files

namespace CommandLine

/-- The text by which a document is asked for. -/
def documentPath (path : String) : String := (Path.ofString path).text

variable {files : Files} {env : Environment} {ga : GenerateArguments}

/-- Loading the documents of a generation fails, if at all, by faults that are reported. -/
structure LoadsInOrder (files : Files) (ga : GenerateArguments) : Prop where
  limits : ∀ path ∈ ga.documentPaths, files.WithinLimits (documentPath path)
  suite : files.HasScalarIds (documentPath ga.suitePath)
  snippets : ∀ path, ga.snippetsPath = some path → files.HasScalarIds (documentPath path)

/-- Everything that a generation needs can be used. -/
structure InputsLoad (files : Files) (env : Environment) (ga : GenerateArguments) : Prop where
  configuration : Configuration.IsValid env
  runner : ga.NamesRunner
  suite : files.HasSuite (documentPath ga.suitePath)
  snippets : ∀ path, ga.snippetsPath = some path → files.HasSnippets (documentPath path)
  environment : ∀ path, ga.envPath = some path →
    ∃ fields, files.loadObject (documentPath path) = .ok fields

theorem loadDocuments_eq (files : Files) (ga : GenerateArguments) : loadDocuments files ga = (do
    let suite ← files.loadSuite (documentPath ga.suitePath)
    let snippets ← files.loadSnippets (ga.snippetsPath.map documentPath)
    let env ← ((ga.envPath.map documentPath).map files.loadObject).getD (.ok [])
    return { suite, snippets, env }) := by
  unfold loadDocuments
  cases ga.envPath with
  | none => rfl
  | some path =>
    simp only [Option.map_some, Option.getD_some]
    rfl

theorem LoadsInOrder.exists_loadDocuments_iff (h : LoadsInOrder files ga) :
    (∃ documents, loadDocuments files ga = .ok documents) ↔
      files.HasSuite (documentPath ga.suitePath) ∧
        (∀ path, ga.snippetsPath = some path → files.HasSnippets (documentPath path)) ∧
        ∀ path, ga.envPath = some path →
          ∃ fields, files.loadObject (documentPath path) = .ok fields := by
  have hmap : ∀ {given : Option String} {P : String → Prop},
      (∀ path, given.map documentPath = some path → P path) ↔
        ∀ path, given = some path → P (documentPath path) := by
    intro given P
    cases given <;> simp
  have hload : (∃ documents, loadDocuments files ga = .ok documents) ↔
      (∃ suite, files.loadSuite (documentPath ga.suitePath) = .ok suite) ∧
        (∃ snippets, files.loadSnippets (ga.snippetsPath.map documentPath) = .ok snippets) ∧
        ∃ fields, ((ga.envPath.map documentPath).map files.loadObject).getD (.ok []) =
          .ok fields := by
    rw [loadDocuments_eq]
    simp only [bind_eq_ok_iff, pure_eq_ok, Except.ok.injEq]
    constructor
    · rintro ⟨documents, suite, hsuite, snippets, hsnippets, fields, hfields, -⟩
      exact ⟨⟨suite, hsuite⟩, ⟨snippets, hsnippets⟩, fields, hfields⟩
    · rintro ⟨⟨suite, hsuite⟩, ⟨snippets, hsnippets⟩, fields, hfields⟩
      exact ⟨_, suite, hsuite, snippets, hsnippets, fields, hfields, rfl⟩
  rw [hload, Files.exists_loadSuite_iff h.suite,
    Files.exists_loadSnippets_iff (hmap.2 h.snippets), Configuration.exists_getD_iff, hmap, hmap]

/-- A fault of the documents is reported under the path of one. -/
theorem LoadsInOrder.isDocumented (h : LoadsInOrder files ga) {fault : LoadFault}
    (hload : loadDocuments files ga = .error fault) : ∃ path, fault.IsDocumented path := by
  have hsuiteLimits := h.limits ga.suitePath List.mem_cons_self
  rw [loadDocuments_eq] at hload
  cases hsuite : files.loadSuite (documentPath ga.suitePath) with
  | error suiteFault =>
    rw [hsuite, error_bind] at hload
    obtain rfl := Except.error.inj hload
    exact ⟨_, hsuiteLimits.isDocumented_of_loadSuite h.suite hsuite⟩
  | ok suite =>
    rw [hsuite, ok_bind] at hload
    cases hsnippets : files.loadSnippets (ga.snippetsPath.map documentPath) with
    | error snippetsFault =>
      rw [hsnippets, error_bind] at hload
      obtain rfl := Except.error.inj hload
      cases hpath : ga.snippetsPath with
      | none =>
        rw [hpath] at hsnippets
        cases hsnippets
      | some path =>
        rw [hpath] at hsnippets
        have hlimits := h.limits path (by simp [GenerateArguments.documentPaths, hpath])
        exact ⟨_, hlimits.isDocumented_of_loadSnippets (h.snippets path hpath) hsnippets⟩
    | ok snippets =>
      rw [hsnippets, ok_bind] at hload
      cases hpath : ga.envPath with
      | none =>
        rw [hpath] at hload
        cases hload
      | some path =>
        rw [hpath] at hload
        have hlimits := h.limits path (by simp [GenerateArguments.documentPaths, hpath])
        cases henv : files.loadObject (documentPath path) with
        | ok fields =>
          simp only [Option.map_some, Option.getD_some, henv, ok_bind] at hload
          cases hload
        | error envFault =>
          simp only [Option.map_some, Option.getD_some, henv, error_bind] at hload
          obtain rfl := Except.error.inj hload
          obtain ⟨reason, rfl⟩ := hlimits.unreadable_of_loadObject henv
          exact ⟨_, .unreadable reason⟩

/-! ### What loading leads to -/

/-- What the generator is given, once everything is loaded. -/
def Prepares (files : Files) (env : Environment) (ga : GenerateArguments)
    (input : GeneratorInput) : Prop :=
  ∃ config runner documents, Configuration.ofEnvironment env = .ok config ∧
    selectRunner config ga.runner = .ok runner ∧ loadDocuments files ga = .ok documents ∧
    input = generatorInput config runner ga documents

theorem LoadsInOrder.exists_prepares_iff (h : LoadsInOrder files ga) :
    (∃ input, Prepares files env ga input) ↔ InputsLoad files env ga := by
  constructor
  · rintro ⟨input, config, runner, documents, hconfig, hrunner, hload, -⟩
    obtain ⟨hsuite, hsnippets, henv⟩ := h.exists_loadDocuments_iff.1 ⟨documents, hload⟩
    exact ⟨Configuration.exists_ofEnvironment_iff.1 ⟨config, hconfig⟩,
      (exists_selectRunner_iff config ga).1 ⟨runner, hrunner⟩, hsuite, hsnippets, henv⟩
  · intro hinputs
    obtain ⟨config, hconfig⟩ := Configuration.exists_ofEnvironment_iff.2 hinputs.configuration
    obtain ⟨runner, hrunner⟩ := (exists_selectRunner_iff config ga).2 hinputs.runner
    obtain ⟨documents, hload⟩ :=
      h.exists_loadDocuments_iff.2 ⟨hinputs.suite, hinputs.snippets, hinputs.environment⟩
    exact ⟨_, config, runner, documents, hconfig, hrunner, hload, rfl⟩

theorem ending_loadFailed {fault : LoadFault} {path : String} (h : fault.IsDocumented path) :
    (loadFailed fault).ending = .exit 2 := by
  cases h with
  | unreadable reason => rfl
  | invalid hstructural => rfl

/-- A run that could not begin has the status two. -/
theorem LoadsInOrder.ending_of_not_prepares (h : LoadsInOrder files ga)
    (hnot : ¬∃ input, Prepares files env ga input) :
    (generate files env ga).ending = .exit 2 := by
  unfold generate
  split
  · rfl
  · next config hconfig =>
    split
    · rfl
    · next runner hrunner =>
      split
      · next fault hload =>
        obtain ⟨path, hdocumented⟩ := h.isDocumented hload
        exact ending_loadFailed hdocumented
      · next documents hload =>
        exact absurd ⟨_, config, runner, documents, hconfig, hrunner, hload, rfl⟩ hnot

/-- A generation that cannot be set up ends its run without a status. -/
theorem ending_of_unhashable {input : GeneratorInput} (h : Prepares files env ga input)
    (hnot : ¬∃ g, Generator.ofInput input = .ok g) :
    (generate files env ga).ending = .crash .unhashable := by
  obtain ⟨config, runner, documents, hconfig, hrunner, hload, rfl⟩ := h
  unfold generate
  simp only [hconfig, hrunner, hload]
  split
  · rfl
  · next g hg => exact absurd ⟨g, hg⟩ hnot

/-- The inputs of a run load, and a generator is set up from them. -/
def SetsUp (files : Files) (env : Environment) (ga : GenerateArguments) (g : Generator) : Prop :=
  ∃ input, Prepares files env ga input ∧ Generator.ofInput input = .ok g

/-- What a run does with the generator that is set up for it. -/
theorem generate_of_setsUp {g : Generator} (h : SetsUp files env ga g) :
    ∃ config, Configuration.ofEnvironment env = .ok config ∧
      (∀ failure, g.generate.outcome = .error failure →
        generate files env ga =
          ⟨shownRecords config ga.verbose g.generate.records ++ failureMessages failure.error,
            .exit 1⟩) ∧
      ∀ source, g.generate.outcome = .ok source →
        generate files env ga =
          finish (readsHalves files ga) ga
            (shownRecords config ga.verbose g.generate.records) source := by
  obtain ⟨input, ⟨config, runner, documents, hconfig, hrunner, hload, rfl⟩, hg⟩ := h
  refine ⟨config, hconfig, fun failure hfailure => ?_, fun source hsource => ?_⟩
  · unfold generate
    simp only [hconfig, hrunner, hload, hg, hfailure]
  · unfold generate
    simp only [hconfig, hrunner, hload, hg, hsource]

theorem ending_of_setsUp (hwhole : readsHalves files ga = false) {g : Generator}
    (h : SetsUp files env ga g) :
    ((generate files env ga).ending = .exit 1 ∧ ∃ failure, g.generate.outcome = .error failure) ∨
      ((generate files env ga).ending = .exit 0 ∧ ∃ source, g.generate.outcome = .ok source) := by
  obtain ⟨config, -, hfails, hsucceeds⟩ := generate_of_setsUp h
  cases houtcome : g.generate.outcome with
  | error failure =>
    rw [hfails failure houtcome]
    exact Or.inl ⟨rfl, failure, rfl⟩
  | ok source =>
    rw [hsucceeds source houtcome, hwhole, finish_of_whole]
    exact Or.inr ⟨rfl, source, rfl⟩

end CommandLine

/-! ### What cannot be generated -/

namespace Generator

/-- A command that is enabled cannot be rendered, or the suite cannot, since the name of a target
that it declares is no identifier. -/
def CannotRender (g : Generator) : Prop :=
  (∃ c ∈ g.suite.enabledCommands, ∃ failure, (g.renderCommand c).outcome = .error failure) ∨
    ∃ t ∈ g.resolver.declarations, ¬∃ name, t.name = .text name ∧ Text.isIdentifier name = true

theorem verdict_eq_ok_iff (g : Generator) :
    g.verdict = .ok () ↔
      ∀ c ∈ g.suite.enabledCommands, ∃ r, (g.renderCommand c).outcome = .ok r := by
  rw [verdict_eq_forM, forM_eq_ok_iff]
  refine forall_congr' fun c => imp_congr_right fun hc => ?_
  rw [← check_eq_ok_iff, check_renderCommand g (Suite.disabled_of_mem_enabledCommands hc)]

theorem exists_generate_iff_not_cannotRender {g : Generator} (hschema : g.schema = Jest.schema) :
    (∃ source, g.generate.outcome = .ok source) ↔ ¬g.CannotRender := by
  have hrenders : ∀ c, (∃ r, (g.renderCommand c).outcome = .ok r) ↔
      ¬∃ failure, (g.renderCommand c).outcome = .error failure := by
    intro c
    cases (g.renderCommand c).outcome with
    | ok r => simp
    | error failure => simp
  rw [Jest.exists_generate_iff hschema, verdict_eq_ok_iff, CannotRender, not_or]
  refine and_congr (by simp only [hrenders, not_exists, not_and]) ⟨?_, ?_⟩
  · rintro hnames ⟨t, ht, hnot⟩
    exact hnot (hnames t ht)
  · intro hnone t ht
    by_contra hnot
    exact hnone ⟨t, ht, hnot⟩

end Generator

/-! ### What appears of a run -/

def Step.isWrite : Step → Bool
  | .write _ _ => true
  | _ => false

theorem not_isWrite_of_isQuiet {step : Step} (h : step.isQuiet = true) : step.isWrite = false := by
  cases step with
  | log record => rfl
  | message markup => rfl
  | output text => rfl
  | write path text => cases h

/-- If every message is printed and the only file is written, a run ends as its report says. -/
theorem Transcript.ending_perform {steps : List Step} (t : Transcript)
    (hprint : ∀ markup, .message markup ∈ steps → ∃ text, Console.Message.render markup = .ok text)
    (hwrite : ∀ path text, .write path text ∈ steps →
      ∃ placed, t.files.write path text.toUTF8.toList = .ok placed)
    (hone : steps.countP Step.isWrite ≤ 1) : (t.perform steps).ending = t.ending := by
  induction steps generalizing t with
  | nil => rfl
  | cons step steps ih =>
    have hprint' : ∀ markup, .message markup ∈ steps →
        ∃ text, Console.Message.render markup = .ok text :=
      fun markup hmem => hprint markup (List.mem_cons_of_mem step hmem)
    have hwrite' : ∀ path text, .write path text ∈ steps →
        ∃ placed, t.files.write path text.toUTF8.toList = .ok placed :=
      fun path text hmem => hwrite path text (List.mem_cons_of_mem step hmem)
    cases step with
    | log record =>
      rw [perform]
      exact ih _ hprint' hwrite' hone
    | output text =>
      rw [perform]
      exact ih _ hprint' hwrite' hone
    | message markup =>
      obtain ⟨text, htext⟩ := hprint markup List.mem_cons_self
      rw [perform, htext]
      exact ih _ hprint' hwrite' hone
    | write path text =>
      -- the files change here, and nothing is written to them afterwards
      obtain ⟨placed, hplaced⟩ := hwrite path text List.mem_cons_self
      have hnone : steps.countP Step.isWrite = 0 := by
        rw [List.countP_cons_of_pos rfl] at hone
        omega
      rw [perform, hplaced]
      refine ih _ hprint' (fun path' text' hmem => ?_) (by omega)
      exact absurd rfl (List.countP_eq_zero.1 hnone _ hmem)

namespace CommandLine

variable {files : Files} {env : Environment} {args : List String} {ga : GenerateArguments}

/-- Nothing but the source is written, to the file that is asked for. -/
structure WritesOutput (ga : GenerateArguments) (steps : List Step) : Prop where
  once : steps.countP Step.isWrite ≤ 1
  output : ∀ path text, .write path text ∈ steps →
    ∃ output, ga.output = some output ∧ path = Path.ofString output

theorem writesOutput_of_none {steps : List Step} (h : ∀ step ∈ steps, step.isWrite = false) :
    WritesOutput ga steps := by
  constructor
  · rw [List.countP_eq_zero.2 fun step hstep => by simp [h step hstep]]
    exact Nat.zero_le 1
  · intro path text hmem
    cases h _ hmem

theorem WritesOutput.append_left {steps before : List Step} (h : WritesOutput ga steps)
    (hbefore : ∀ step ∈ before, step.isWrite = false) : WritesOutput ga (before ++ steps) := by
  constructor
  · rw [List.countP_append, List.countP_eq_zero.2 fun step hstep => by simp [hbefore step hstep],
      Nat.zero_add]
    exact h.once
  · intro path text hmem
    rcases List.mem_append.1 hmem with hmem | hmem
    · cases hbefore _ hmem
    · exact h.output path text hmem

theorem writesOutput_of_quiet {steps : List Step} (h : AllQuiet steps) : WritesOutput ga steps :=
  writesOutput_of_none fun step hstep => not_isWrite_of_isQuiet (h step hstep)

theorem writesOutput_deliver (ga : GenerateArguments) (source : Fragment) :
    WritesOutput ga (deliver ga source) := by
  obtain ⟨after, hafter, hdeliver⟩ := deliver_eq ga source
  have hnone : ∀ step ∈ after, step.isWrite = false := fun step hstep =>
    not_isWrite_of_isQuiet (hafter step hstep)
  rw [hdeliver, delivery]
  cases houtput : ga.output with
  | none => exact writesOutput_of_none (List.forall_mem_cons.2 ⟨rfl, hnone⟩)
  | some output =>
    constructor
    · have hcount : after.countP Step.isWrite = 0 :=
        List.countP_eq_zero.2 fun step hstep => by simp [hnone step hstep]
      rw [List.countP_cons_of_pos rfl, hcount]
    · intro path text hmem
      rcases List.mem_cons.1 hmem with hwrite | hmem
      · obtain ⟨rfl, -⟩ := Step.write.inj hwrite
        exact ⟨output, houtput, rfl⟩
      · cases hnone _ hmem

theorem writesOutput_finish {halves : Bool} {log : List Step} {source : Fragment}
    (hlog : AllQuiet log) : WritesOutput ga (finish halves ga log source).steps := by
  have hnone : ∀ step ∈ log, step.isWrite = false := fun step hstep =>
    not_isWrite_of_isQuiet (hlog step hstep)
  rcases finish_cases halves ga log source with hfinish | ⟨output, houtput, hfinish⟩
  · rw [hfinish]
    exact (writesOutput_deliver ga source).append_left hnone
  · rw [hfinish]
    refine WritesOutput.append_left ⟨Nat.le_refl 1, fun path text hmem => ?_⟩ hnone
    obtain ⟨rfl, -⟩ := Step.write.inj (List.mem_singleton.1 hmem)
    exact ⟨output, houtput, rfl⟩

theorem writesOutput_generate (files : Files) (env : Environment) (ga : GenerateArguments) :
    WritesOutput ga (generate files env ga).steps := by
  unfold generate
  split
  · exact writesOutput_of_quiet (quiet_stop _ _)
  · split
    · exact writesOutput_of_quiet (quiet_stop _ _)
    · split
      · exact writesOutput_of_quiet (quiet_loadFailed _)
      · split
        · exact writesOutput_of_quiet (List.forall_mem_nil _)
        · dsimp only
          split
          · exact writesOutput_of_quiet
              ((quiet_shownRecords _ _ _).append (quiet_failureMessages _))
          · exact writesOutput_finish (quiet_shownRecords _ _ _)

/-- The messages of a run are printed, and its output can be written. -/
structure CanAppear (files : Files) (ga : GenerateArguments) (report : Report) : Prop where
  messages : ∀ markup, .message markup ∈ report.steps →
    ∃ text, Console.Message.render markup = .ok text
  output : ∀ path, ga.output = some path → ∀ content,
    ∃ placed, files.write (Path.ofString path) content = .ok placed

theorem CanAppear.ending_perform (h : CanAppear files ga (generate files env ga))
    (screen : Console.Screen) :
    ((generate files env ga).perform screen files).ending = (generate files env ga).ending := by
  have hwrites := writesOutput_generate files env ga
  refine Transcript.ending_perform _ h.messages (fun path text hmem => ?_) hwrites.once
  obtain ⟨output, houtput, rfl⟩ := hwrites.output path text hmem
  exact h.output output houtput _

/-! ### The status -/

/-- A run ends with a status, and the status tells what the run could do: two if an input cannot
be used, one if a command or the suite cannot be generated, nought if the source is. -/
structure Classifies (files : Files) (env : Environment) (ga : GenerateArguments)
    (ending : Ending) : Prop where
  ends : ∃ status, ending = .exit status
  two : ending = .exit 2 ↔ ¬InputsLoad files env ga
  one : ending = .exit 1 ↔ ∃ g, SetsUp files env ga g ∧ g.CannotRender
  nought : ending = .exit 0 ↔ ∃ g, SetsUp files env ga g ∧ ¬g.CannotRender

theorem Prepares.unique {input other : GeneratorInput} (h : Prepares files env ga input)
    (h' : Prepares files env ga other) : input = other := by
  obtain ⟨config, runner, documents, hconfig, hrunner, hload, rfl⟩ := h
  obtain ⟨config', runner', documents', hconfig', hrunner', hload', rfl⟩ := h'
  obtain rfl := Except.ok.inj (hconfig.symm.trans hconfig')
  obtain rfl := Except.ok.inj (hrunner.symm.trans hrunner')
  obtain rfl := Except.ok.inj (hload.symm.trans hload')
  rfl

theorem SetsUp.unique {g g' : Generator} (h : SetsUp files env ga g)
    (h' : SetsUp files env ga g') : g = g' := by
  obtain ⟨input, hinput, hg⟩ := h
  obtain ⟨input', hinput', hg'⟩ := h'
  obtain rfl := hinput.unique hinput'
  exact Except.ok.inj (hg.symm.trans hg')

theorem Prepares.schema_eq {input : GeneratorInput} (h : Prepares files env ga input) :
    input.schema = Jest.schema := by
  obtain ⟨_, _, _, -, -, -, rfl⟩ := h
  rfl

/-- The methods without a wait come from the environment, as texts. -/
theorem Prepares.isScalar_illegalMethods {input : GeneratorInput}
    (h : Prepares files env ga input) : ∀ v ∈ input.illegalMethods, v.IsScalar := by
  obtain ⟨_, _, _, -, -, -, rfl⟩ := h
  intro v hv
  obtain ⟨method, -, rfl⟩ := List.mem_map.1 hv
  trivial

/-- The status of a run, by how far the run gets. -/
theorem LoadsInOrder.classifies (h : LoadsInOrder files ga)
    (hwhole : readsHalves files ga = false)
    (hnames : ∀ input, Prepares files env ga input → ∃ g, Generator.ofInput input = .ok g) :
    Classifies files env ga (generate files env ga).ending := by
  by_cases hprepares : ∃ input, Prepares files env ga input
  · obtain ⟨input, hinput⟩ := hprepares
    obtain ⟨g, hg⟩ := hnames input hinput
    have hsets : SetsUp files env ga g := ⟨input, hinput, hg⟩
    have hload : InputsLoad files env ga := h.exists_prepares_iff.1 ⟨input, hinput⟩
    have hschema : g.schema = Jest.schema := by
      rw [← hinput.schema_eq, ← Generator.toGeneratorInput_of_ofInput hg]
    have hiff := Generator.exists_generate_iff_not_cannotRender hschema
    have hone : (∃ g', SetsUp files env ga g' ∧ g'.CannotRender) ↔ g.CannotRender :=
      ⟨fun ⟨_, hg', hcannot⟩ => hg'.unique hsets ▸ hcannot, fun hcannot => ⟨g, hsets, hcannot⟩⟩
    have hnought : (∃ g', SetsUp files env ga g' ∧ ¬g'.CannotRender) ↔ ¬g.CannotRender :=
      ⟨fun ⟨_, hg', hcan⟩ => hg'.unique hsets ▸ hcan, fun hcan => ⟨g, hsets, hcan⟩⟩
    rcases ending_of_setsUp hwhole hsets with ⟨hending, failure, hfailure⟩ | ⟨hending, hsource⟩
    · have hcannot : g.CannotRender := by
        by_contra hcan
        obtain ⟨source, hsource⟩ := hiff.2 hcan
        rw [hfailure] at hsource
        cases hsource
      rw [hending]
      exact ⟨⟨1, rfl⟩, by simp [hload], by simp [hone, hcannot], by simp [hnought, hcannot]⟩
    · have hcan := hiff.1 hsource
      rw [hending]
      exact ⟨⟨0, rfl⟩, by simp [hload], by simp [hone, hcan], by simp [hnought, hcan]⟩
  · have hload : ¬InputsLoad files env ga := fun hload => hprepares (h.exists_prepares_iff.2 hload)
    have hsets : ∀ g, ¬SetsUp files env ga g :=
      fun g ⟨input, hinput, _⟩ => hprepares ⟨input, hinput⟩
    rw [h.ending_of_not_prepares hprepares]
    exact ⟨⟨2, rfl⟩, by simp [hload], by simp [hsets], by simp [hsets]⟩

/-- **What the status tells.**  Arguments ask for a generation, its documents are within the
limits of loading and have no halves of pairs in their texts, its messages can be printed and its
output can be written.  Then the run ends with the status that tells how far it came if and only
if, once its inputs are loaded, no target that can be declared has a list or an object for a
name. -/
theorem classifies_iff (screen : Console.Screen)
    (hargs : Invocation.ofArguments args = .generate ga) (horder : LoadsInOrder files ga)
    (hwhole : readsHalves files ga = false)
    (happears : ∀ report, run? files env args = some report → CanAppear files ga report) :
    ∃ report, run? files env args = some report ∧
      (Classifies files env ga (report.perform screen files).ending ↔
        ∀ input, Prepares files env ga input →
          ∀ t ∈ input.resolver.snippets ++ input.resolver.suite, t.name.IsScalar) := by
  have hrun : run? files env args = some (generate files env ga) := by
    unfold run?
    rw [hargs]
  have hnames : (∀ input, Prepares files env ga input → ∃ g, Generator.ofInput input = .ok g) ↔
      ∀ input, Prepares files env ga input →
        ∀ t ∈ input.resolver.snippets ++ input.resolver.suite, t.name.IsScalar := by
    refine forall_congr' fun input => imp_congr_right fun hinput => ?_
    rw [Generator.exists_ofInput_iff, and_iff_right hinput.isScalar_illegalMethods]
  refine ⟨_, hrun, ?_⟩
  rw [(happears _ hrun).ending_perform, ← hnames]
  constructor
  · intro hclassifies input hinput
    by_contra hnot
    obtain ⟨status, hstatus⟩ := hclassifies.ends
    rw [ending_of_unhashable hinput hnot] at hstatus
    cases hstatus
  · exact horder.classifies hwhole

/-! ### Runs on one file -/

/-- A suite with a target, and a command that goes to no address. -/
def aimlessSuite : String :=
  "\x7b\"targets\": \x7b\"BUY\": \"#buy\"\x7d, \"groups\": \x7b\"g\": \x7b\"tests\": \x7b\"t\": " ++
    "\x7b\"commands\": \x7b\"c\": \x7b\"target\": \"page\", \"method\": \"goto\"\x7d\x7d\x7d\x7d\x7d\x7d\x7d"

theorem loadObject_aimlessSuite : (Files.single "s.json" aimlessSuite).loadObject "s.json" =
    .ok [("targets", .object [("BUY", .text "#buy")]),
      ("groups", .object [("g", .object [("tests", .object [("t", .object [
        ("commands", .object [
          ("c", .object [("target", .text "page"), ("method", .text "goto")])])])])])])] := by
  decide +kernel

theorem documentPath_single : documentPath "s.json" = "s.json" := by decide +kernel

theorem readsHalves_single {text : String} (hslash : '\\' ∉ text.toList)
    (hpaths : ga.documentPaths = ["s.json"]) :
    readsHalves (Files.single "s.json" text) ga = false := by
  have hsingle : (Files.single "s.json" text).hasHalves (documentPath "s.json") = false := by
    rw [documentPath_single]
    exact Files.hasHalves_single rfl hslash
  rw [readsHalves, hpaths, List.any_cons, List.any_nil, Bool.or_false]
  exact hsingle

theorem loadsInOrder_aimlessSuite :
    LoadsInOrder (Files.single "s.json" aimlessSuite) { suitePath := "s.json" } := by
  constructor
  · intro path hmem
    obtain rfl := List.mem_singleton.1 hmem
    rw [documentPath_single]
    exact Files.withinLimits_single (by decide +kernel) (by decide +kernel) (by decide +kernel)
      (by decide +kernel) (by decide +kernel)
  · intro fields hfields entry hentry
    rw [documentPath_single] at hfields
    obtain rfl := Except.ok.inj (loadObject_aimlessSuite.symm.trans hfields)
    obtain rfl := List.mem_singleton.1 hentry
    exact ⟨nofun, nofun⟩
  · exact nofun

/-- The command cannot be rendered, so the run has the status one. -/
theorem status_of_aimlessSuite :
    ∃ report, run? (Files.single "s.json" aimlessSuite) [] ["generate", "s.json"] = some report ∧
      report.ending = .exit 1 ∧
      Classifies (Files.single "s.json" aimlessSuite) [] { suitePath := "s.json" }
        (report.perform .endless (Files.single "s.json" aimlessSuite)).ending := by
  have hrun : run? (Files.single "s.json" aimlessSuite) [] ["generate", "s.json"] = some
      ⟨[.log ⟨.warning, "Failed to render command c (group g, test t) page.goto: 'url'"⟩,
        .log ⟨.warning, "Generation of '' failed: 'url' in page.goto"⟩,
        .message "[red]Generation failed:[/red] 'url' in page.goto",
        .message "  command c in group g, test t"], .exit 1⟩ := by decide +kernel
  have happears : ∀ report,
      run? (Files.single "s.json" aimlessSuite) [] ["generate", "s.json"] = some report →
        CanAppear (Files.single "s.json" aimlessSuite) { suitePath := "s.json" } report := by
    intro report hreport
    obtain rfl := Option.some.inj (hrun.symm.trans hreport)
    refine ⟨fun markup hmarkup => ?_, nofun⟩
    simp only [List.mem_cons, reduceCtorEq, Step.message.injEq, List.not_mem_nil, or_false,
      false_or] at hmarkup
    rcases hmarkup with rfl | rfl
    · exact ⟨"Generation failed: 'url' in page.goto", by decide +kernel⟩
    · exact ⟨"  command c in group g, test t", by decide +kernel⟩
  have hargs : Invocation.ofArguments ["generate", "s.json"] = .generate { suitePath := "s.json" } :=
    by decide
  have hwhole : readsHalves (Files.single "s.json" aimlessSuite) { suitePath := "s.json" } = false :=
    readsHalves_single (by decide +kernel) rfl
  obtain ⟨report, hreport, hiff⟩ :=
    classifies_iff .endless hargs loadsInOrder_aimlessSuite hwhole happears
  obtain rfl := Option.some.inj (hrun.symm.trans hreport)
  refine ⟨_, hrun, rfl, hiff.2 ?_⟩
  rintro input ⟨config, runner, documents, -, -, hload, rfl⟩ t ht
  have htargets : (loadDocuments (Files.single "s.json" aimlessSuite) { suitePath := "s.json" }).map
      (fun documents => (documents.suite.targets, documents.snippets.targets)) =
        .ok ([(.text "BUY", ⟨.text "BUY", .text "#buy", .text "BUY"⟩)], []) := by
    rw [loadDocuments_eq, Files.loadSuite, documentPath_single, loadObject_aimlessSuite]
    rfl
  rw [hload] at htargets
  obtain ⟨hsuite, hsnippets⟩ := Prod.mk.inj (Except.ok.inj htargets)
  have hdeclarable : t ∈ documents.snippets.targets.declarable ++
      documents.suite.targets.declarable := ht
  rw [hsuite, hsnippets] at hdeclarable
  obtain rfl := List.mem_singleton.1 hdeclarable
  trivial

/-- A target that is kept under a list, and one whose name is a list, end a run without a status. -/
theorem runs_without_status :
    run? (Files.single "s.json" "\x7b\"targets\": \x7b\"a\": \x7b\"id\": [1]\x7d\x7d\x7d") []
        ["generate", "s.json"] = some ⟨[], .crash .unhashable⟩ ∧
      run? (Files.single "s.json"
        "\x7b\"targets\": \x7b\"a\": \x7b\"target\": [1], \"selector\": \"#a\"\x7d\x7d\x7d") []
        ["generate", "s.json"] = some ⟨[], .crash .unhashable⟩ := by
  constructor
  · decide +kernel
  · decide +kernel

end CommandLine

end SuiteCompiler
