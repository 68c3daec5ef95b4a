/-
  SuiteCompiler/Proofs/Diagnostics.lean
  =====================================
  What standard error tells of a run.

  A run says why it ends in messages, and a message is about a text that comes from the
  outside: a path, the name of a target, an id.  The text that refuses a generation
  appears if and only if it is plain.  A generation that fails has more than messages:
  the failure is logged too, with the place of the command, and the log is no markup
  (`mem_records_of_failure`).  So the failure appears, whatever its texts are, unless
  warnings are not shown; then it depends on the messages.  They appear as they are
  meant if and only if the texts are plain and the command has an id at all
  (`diagnostics_are_intact_iff`).  What depends on messages is about screens that are
  wide enough for them (`Report.Fits`).
-/
import SuiteCompiler.Proofs.Delivery
import SuiteCompiler.Proofs.Notices

namespace SuiteCompiler

open Console Outcome

/-! ### The log of a generation that fails -/

/-- What is logged of a command that cannot be rendered. -/
def CommandFailure.record (f : CommandFailure) : LogRecord :=
  let place := s!"(group {f.groupId.display}, test {f.testId.display})"
  ⟨.warning, s!"Failed to render command {f.commandId} {place} {f.location}: {f.fault.message}"⟩

namespace Logged

variable {α β : Type}

/-- A computation that fails because of a command has logged that. -/
def Reports (x : Logged RenderFailure α) : Prop :=
  ∀ f, x.outcome = .error (.command f) → f.record ∈ x.records

theorem reports_pure (a : α) : Reports (pure a : Logged RenderFailure α) := by
  intro f h
  cases h

theorem reports_log (level : LogLevel) (text : String) :
    Reports (log level text : Logged RenderFailure Unit) := by
  intro f h
  cases h

theorem Reports.bind {x : Logged RenderFailure α} {k : α → Logged RenderFailure β}
    (hx : Reports x) (hk : ∀ a, Reports (k a)) : Reports (x >>= k) := by
  intro f h
  change f.record ∈ (andThen x k).records
  rw [outcome_bind] at h
  unfold andThen
  cases hout : x.outcome with
  | error failure =>
    rw [hout] at h
    obtain rfl := Except.error.inj h
    exact hx f hout
  | ok a =>
    rw [hout] at h
    exact List.mem_append_right _ (hk a f h)

theorem reports_each {k : α → Logged RenderFailure β} (h : ∀ a, Reports (k a)) (xs : List α) :
    Reports (each k xs) := by
  induction xs with
  | nil => exact reports_pure []
  | cons x xs ih => exact (h x).bind fun b => ih.bind fun bs => reports_pure (b :: bs)

end Logged

namespace Generator

open Logged

variable {g : Generator}

theorem reports_above {α : Type} (text : Except TemplateFault α) : Reports (above text) := by
  intro f h
  cases text with
  | ok a => cases h
  | error fault => cases h

theorem reports_renderPlain (g : Generator) (c : Command) : Reports (g.renderPlain c) := by
  unfold renderPlain
  split
  · exact reports_pure _
  · exact (reports_log _ _).bind fun _ => reports_pure _
  next fault _ =>
    intro f h
    obtain rfl := RenderFailure.command.inj (Except.error.inj h)
    exact List.mem_cons_self

theorem reports_renderSnippet (g : Generator) (ref : Value) (cs : List Command) :
    Reports (g.renderSnippet ref cs) := by
  induction cs with
  | nil => exact reports_pure []
  | cons c cs ih =>
    unfold renderSnippet
    split
    · exact (reports_log _ _).bind fun _ => ih
    · exact (reports_renderPlain g c).bind fun _ => ih.bind fun _ => reports_pure _

theorem reports_renderReference (g : Generator) (ref : Value) (bindings : Fields) :
    Reports (g.renderReference ref bindings) := by
  unfold renderReference
  split
  · intro f h
    cases h
  · exact (reports_log _ _).bind fun _ => reports_pure _
  · exact (reports_renderSnippet g ref _).bind fun _ => reports_pure _

theorem reports_renderCommand (g : Generator) (c : Command) : Reports (g.renderCommand c) := by
  unfold renderCommand
  split
  · exact reports_pure _
  · split
    · exact reports_renderReference g c.ref _
    · exact reports_renderPlain g c

theorem reports_renderTest (g : Generator) (t : Test) : Reports (g.renderTest t) := by
  unfold renderTest
  split
  · exact reports_pure _
  · refine (reports_each (reports_renderCommand g) _).bind fun _ => ?_
    exact (reports_above _).bind fun _ => reports_pure _

theorem reports_renderGroup (g : Generator) (group : Group) : Reports (g.renderGroup group) := by
  unfold renderGroup
  refine (reports_each (reports_renderTest g) _).bind fun _ => ?_
  dsimp only
  split
  · exact reports_pure _
  · exact (reports_above _).bind fun _ => reports_pure _

theorem reports_renderSuite (g : Generator) : Reports g.renderSuite := by
  unfold renderSuite
  refine (reports_each (reports_renderGroup g) _).bind fun _ => ?_
  exact (reports_above _).bind fun _ => reports_pure _

/-- A generation that fails logs its failure, and the command that failed if there is one. -/
theorem mem_records_of_failure {failure : RenderFailure} (h : g.generate.outcome = .error failure) :
    ⟨.warning, s!"Generation of '{g.suite.title.display}' failed: {failure.message}"⟩ ∈
        g.generate.records ∧
      ∀ f, failure = .command f → f.record ∈ g.generate.records := by
  have hreports := reports_renderSuite g
  unfold generate at h ⊢
  dsimp only at h ⊢
  cases hout : g.renderSuite.outcome with
  | ok rendered =>
    rw [hout] at h
    cases h
  | error other =>
    rw [hout] at h
    obtain rfl := Except.error.inj h
    refine ⟨List.mem_append_right _ List.mem_cons_self, ?_⟩
    rintro f rfl
    exact List.mem_append_left _ (hreports f hout)

end Generator

/-! ### Texts in the log -/

namespace Text

theorem occurs_between (before text after : String) : Occurs text (before ++ text ++ after) :=
  ⟨before.toList, after.toList, by simp only [String.toList_append]⟩

theorem occurs_self (text : String) : Occurs text text := List.infix_refl _

theorem Occurs.trans {text middle s : String} (h : Occurs text middle) (h' : Occurs middle s) :
    Occurs text s := List.IsInfix.trans h h'

theorem Occurs.append_left {text s : String} (h : Occurs text s) (before : String) :
    Occurs text (before ++ s) := by
  rw [Occurs, String.toList_append]
  exact List.infix_append_of_infix_right h

theorem Occurs.append_right {text s : String} (h : Occurs text s) (after : String) :
    Occurs text (s ++ after) := by
  rw [Occurs, String.toList_append]
  exact List.infix_append_of_infix_left h

theorem occurs_block {line : String} {lines : List String} (h : line ∈ lines) :
    Occurs line (block lines) := by
  induction lines with
  | nil => cases h
  | cons first lines ih =>
    rw [block]
    rcases List.mem_cons.1 h with rfl | h
    · exact ((occurs_self line).append_right "\n").append_right _
    · exact (ih h).append_left _

theorem Occurs.lines {text : String} {record : LogRecord} (h : Occurs text record.text)
    {records : List LogRecord} (hrecord : record ∈ records) :
    Occurs text (LogRecord.lines records) := by
  induction records with
  | nil => cases hrecord
  | cons first records ih =>
    rw [LogRecord.lines]
    rcases List.mem_cons.1 hrecord with rfl | hrecord
    · exact ((h.append_left _).append_right "\n").append_right _
    · exact (ih hrecord).append_left _

end Text

/-- The log of a run, as far as it is shown. -/
def Report.log (report : Report) : String :=
  LogRecord.lines (report.steps.filterMap fun step =>
    match step with
    | .log record => some record
    | _ => none)

/-- Of the messages of a run, no line takes more columns than there are. -/
def Report.Fits (width : Option Nat) (report : Report) : Prop :=
  ∀ step ∈ report.steps, step.Fits width

instance (width : Option Nat) : DecidablePred (Report.Fits width) := fun report =>
  inferInstanceAs (Decidable (∀ step ∈ report.steps, step.Fits width))

/-! ### What is meant -/

theorem isLabel_configuration : IsLabel "Configuration error:" := by decide +kernel

theorem isLabel_error : IsLabel "Error:" := by decide +kernel

theorem isLabel_failed : IsLabel "Generation failed:" := by decide +kernel

theorem isLabel_wrote : IsLabel "Wrote" := by decide +kernel

/-- A fault of loading that a run tells of. -/
def LoadFault.IsReported : LoadFault → Prop
  | .unreadable _ _ | .invalid _ _ => True
  | .unhashable _ | .tooManyDigits _ | .nameTooLong _ => False

namespace GenerationError

open CommandLine

/-- The notices that tell of an error and of the place of its command, if it names one. -/
def notices (e : GenerationError) : List Notice :=
  .colored isColorName_red isLabel_failed e.message ::
    if e.commandId.kind = .null then [] else [.bare (placeText e)]

/-- The lines that are meant to tell of an error and of the place of its command. -/
def lines (e : GenerationError) : List String :=
  s!"Generation failed: {e.message}" :: if e.commandId.kind = .null then [] else [placeText e]

/-- The messages about an error can tell of it: the texts are plain, and if it names a command,
there is an id to name it by. -/
structure IsReadable (e : GenerationError) : Prop where
  message : IsPlain e.message
  named : e.commandId.kind ≠ .null → e.commandId.isTruthy = true
  place : e.commandId.kind ≠ .null → IsPlain (placeText e)

theorem map_line_notices (e : GenerationError) : e.notices.map Notice.line = e.lines := by
  have hfirst : (Notice.colored isColorName_red isLabel_failed e.message).line =
      s!"Generation failed: {e.message}" := by
    rw [Notice.line, Notice.colored, ← String.append_assoc]
    rfl
  unfold notices lines
  rw [List.map_cons, hfirst]
  split
  · rfl
  · rw [List.map_singleton, Notice.line_bare]

theorem forall_mem_notices_iff (e : GenerationError) :
    (∀ n ∈ e.notices, IsPlain n.text) ↔
      IsPlain e.message ∧ (e.commandId.kind ≠ .null → IsPlain (placeText e)) := by
  unfold notices
  rw [List.forall_mem_cons, Notice.isPlain_text_colored_iff]
  split
  · next hnull => simp [hnull]
  · next hcommand => simp [hcommand, Notice.bare]

end GenerationError

namespace CommandLine

variable {e : GenerationError}

theorem failureMessages_of_named (h : e.commandId.kind ≠ .null → e.commandId.isTruthy = true) :
    failureMessages e = e.notices.map Notice.step := by
  have hfirst : (Notice.colored isColorName_red isLabel_failed e.message).step =
      .message s!"[red]Generation failed:[/red] {e.message}" := by
    rw [Notice.step, Notice.colored, ← String.append_assoc]
    rfl
  unfold GenerationError.notices failureMessages
  rw [List.map_cons, hfirst]
  by_cases hnull : e.commandId.kind = .null
  · have hfalse : e.commandId.isTruthy = false := by
      cases hid : e.commandId <;> simp_all [Value.kind, Value.isTruthy]
    rw [hfalse, if_pos hnull]
    rfl
  · rw [if_neg hnull, h hnull, List.map_singleton, Notice.step_bare]
    rfl

/-- Without an id nothing is told of the place of a command. -/
theorem failureMessages_of_unnamed (h : e.commandId.isTruthy = false) :
    failureMessages e = [(Notice.colored isColorName_red isLabel_failed e.message).step] := by
  rw [Notice.step, Notice.colored, ← String.append_assoc]
  simp only [failureMessages, h]
  rfl

/-- The messages about an error appear as they are meant if and only if they can tell of it. -/
theorem stderr_failureMessages_iff (e : GenerationError) (t : Transcript)
    (hfits : ∀ step ∈ failureMessages e, step.Fits t.screen.width) :
    (t.perform (failureMessages e)).stderr = t.stderr ++ Text.block e.lines ↔ e.IsReadable := by
  by_cases hnamed : e.commandId.kind ≠ .null → e.commandId.isTruthy = true
  · rw [failureMessages_of_named hnamed] at hfits ⊢
    rw [← e.map_line_notices, Transcript.stderr_perform_notices_iff _ _ (List.forall_mem_map.1 hfits),
      e.forall_mem_notices_iff]
    exact ⟨fun h => ⟨h.1, hnamed, h.2⟩, fun h => ⟨h.message, h.place⟩⟩
  · refine iff_of_false (fun hmeant => ?_) fun h => hnamed h.named
    obtain ⟨hcommand, hfalse⟩ : e.commandId.kind ≠ .null ∧ e.commandId.isTruthy = false := by
      simpa using hnamed
    rw [failureMessages_of_unnamed hfalse] at hfits hmeant
    obtain ⟨out, hout, hcases⟩ := Transcript.stderr_perform_notices
      [Notice.colored isColorName_red isLabel_failed e.message] t
      (List.forall_mem_singleton.2 (List.forall_mem_singleton.1 hfits))
    rw [List.map_singleton] at hout hcases
    rw [hout, String.append_right_inj, ← e.map_line_notices] at hmeant
    have hmore : Text.block (e.notices.map Notice.line) =
        Text.block [(Notice.colored isColorName_red isLabel_failed e.message).line] ++
          Text.block [placeText e] := by
      rw [← Text.block_append, GenerationError.notices, if_neg hcommand, List.map_cons,
        List.map_singleton, Notice.line_bare]
      rfl
    rw [hmore] at hmeant
    rcases hcases with ⟨-, rfl⟩ | ⟨-, hdamages⟩
    · exact Text.block_cons_ne_empty (placeText e) [] (String.append_eq_left_iff.1 hmeant.symm)
    · exact hdamages.ne_append _ hmeant

/-- The ids of the commands that are followed by a wait, as they are named. -/
def stopIds (source : Fragment) : String := ", ".intercalate source.interactiveIds

/-- The line about the commands that are followed by a wait. -/
def stopsLine (source : Fragment) : String :=
  let ids := if stopIds source = "" then "none" else stopIds source
  s!"Interactive stops: {ids}"

/-- The notices about a source that is delivered. -/
def deliveryNotices (ga : GenerateArguments) (source : Fragment) : List Notice :=
  let written :=
    match ga.output with
    | none => []
    | some path => [.colored isColorName_green isLabel_wrote (Path.ofString path).text]
  written ++ if ga.interactive then [.bare (stopsLine source)] else []

/-- The lines that are meant to tell of a source that is delivered. -/
def deliveryLines (ga : GenerateArguments) (source : Fragment) : List String :=
  let written :=
    match ga.output with
    | none => []
    | some path => [s!"Wrote {(Path.ofString path).text}"]
  written ++ if ga.interactive then [stopsLine source] else []

/-- The messages about a source that is delivered have plain texts. -/
structure NamesPlainly (ga : GenerateArguments) (source : Fragment) : Prop where
  path : ∀ path, ga.output = some path → IsPlain (Path.ofString path).text
  stops : ga.interactive = true → IsPlain (stopIds source)

theorem isInert_stops : IsInert "Interactive stops: ".toList := by
  have hmarkup : ("Interactive stops: ".toList.all fun c => c ≠ '[' ∧ c ≠ '\\') = true := by
    decide +kernel
  refine ⟨fun c hc => ?_, fun _ => rfl, forall_isShown_of_all (by decide +kernel)⟩
  exact of_decide_eq_true (List.all_eq_true.1 hmarkup c hc)

theorem isPlain_stopsLine_iff (source : Fragment) :
    IsPlain (stopsLine source) ↔ IsPlain (stopIds source) := by
  have hline : ∀ ids, IsPlain s!"Interactive stops: {ids}" ↔ IsPlain ids := by
    intro ids
    have hiff := isInert_stops.isPlain_append_iff (s := ids)
    rwa [String.ofList_toList] at hiff
  unfold stopsLine
  dsimp only
  rw [hline]
  split
  · next hempty =>
    rw [hempty]
    exact iff_of_true (isPlain_of_light (by decide) (forall_isShown_of_all (by decide)))
      (isPlain_of_light (by decide) (forall_isShown_of_all (by decide)))
  · rfl

theorem forall_mem_deliveryNotices_iff (ga : GenerateArguments) (source : Fragment) :
    (∀ n ∈ deliveryNotices ga source, IsPlain n.text) ↔ NamesPlainly ga source := by
  have hstops : (∀ n ∈ (if ga.interactive then [Notice.bare (stopsLine source)] else []),
      IsPlain n.text) ↔ (ga.interactive = true → IsPlain (stopIds source)) := by
    split
    · next hinteractive =>
      rw [List.forall_mem_singleton, ← isPlain_stopsLine_iff]
      exact ⟨fun h _ => h, fun h => h hinteractive⟩
    · next hinteractive =>
      exact iff_of_true (List.forall_mem_nil _) fun h => absurd h hinteractive
  unfold deliveryNotices
  rw [List.forall_mem_append, hstops]
  cases houtput : ga.output with
  | none =>
    refine ⟨fun h => ⟨fun path hpath => ?_, h.2⟩, fun h => ⟨List.forall_mem_nil _, h.stops⟩⟩
    rw [houtput] at hpath
    cases hpath
  | some path =>
    rw [List.forall_mem_singleton, Notice.isPlain_text_colored_iff]
    refine ⟨fun h => ⟨fun path' hpath => ?_, h.2⟩, fun h => ⟨h.path path houtput, h.stops⟩⟩
    rw [houtput] at hpath
    obtain rfl := Option.some.inj hpath
    exact h.1

theorem map_line_deliveryNotices (ga : GenerateArguments) (source : Fragment) :
    (deliveryNotices ga source).map Notice.line = deliveryLines ga source := by
  have hstops : (if ga.interactive then [Notice.bare (stopsLine source)] else []).map Notice.line =
      if ga.interactive then [stopsLine source] else [] := by
    split
    · rw [List.map_singleton, Notice.line_bare]
    · rfl
  unfold deliveryNotices deliveryLines
  rw [List.map_append, hstops]
  cases ga.output with
  | none => rfl
  | some path =>
    rw [List.map_singleton, Notice.line, Notice.colored, ← String.append_assoc]
    rfl

theorem deliver_eq_notices (ga : GenerateArguments) (source : Fragment) :
    deliver ga source =
      delivery ga source :: (deliveryNotices ga source).map Notice.step := by
  have hstops : (if ga.interactive then [Notice.bare (stopsLine source)] else []).map Notice.step =
      if ga.interactive then [.message (stopsLine source)] else [] := by
    split
    · rw [List.map_singleton, Notice.step_bare]
    · rfl
  unfold deliver delivery deliveryNotices
  rw [List.map_append, hstops]
  cases ga.output with
  | none => rfl
  | some path =>
    rw [List.map_singleton, Notice.step, Notice.colored, ← String.append_assoc]
    rfl

/-- Where the output can be written, its delivery does not appear on standard error. -/
theorem perform_delivery {ga : GenerateArguments} {source : Fragment} {steps : List Step}
    {t : Transcript}
    (hwrite : ∀ fault, (t.perform (delivery ga source :: steps)).ending ≠ .crash (.write fault)) :
    ∃ t' : Transcript, t'.screen = t.screen ∧ t'.stderr = t.stderr ∧
      t.perform (delivery ga source :: steps) = t'.perform steps := by
  unfold delivery at hwrite ⊢
  cases houtput : ga.output with
  | none =>
    exact ⟨{ t with stdout := t.stdout ++ dropSequences source.text }, rfl, rfl, rfl⟩
  | some path =>
    rw [houtput, Transcript.perform] at hwrite
    rw [Transcript.perform]
    cases hplaced : t.files.write (Path.ofString path) source.text.toUTF8.toList with
    | error fault =>
      rw [hplaced] at hwrite
      exact absurd rfl (hwrite fault)
    | ok placed =>
      obtain ⟨written, place⟩ := placed
      exact ⟨{ t with files := written }, rfl, rfl, rfl⟩

/-! ### Runs -/

variable {files : Files} {env : Environment} {args : List String} {ga : GenerateArguments}

/-- A generation is refused before it begins, and a text says why. -/
inductive Refuses (files : Files) (env : Environment) (ga : GenerateArguments) : String → Prop where
  | configuration {fault : ConfigurationFault}
      (h : Configuration.ofEnvironment env = .error fault) : Refuses files env ga fault.message
  | runner {config : Configuration} {name : String}
      (hconfig : Configuration.ofEnvironment env = .ok config)
      (h : selectRunner config ga.runner = .error name) :
      Refuses files env ga s!"Unknown runner '{name}' ({Runner.names})"
  | document {config : Configuration} {runner : Runner} {fault : LoadFault}
      (hconfig : Configuration.ofEnvironment env = .ok config)
      (hrunner : selectRunner config ga.runner = .ok runner)
      (h : loadDocuments files ga = .error fault) (hreported : fault.IsReported) :
      Refuses files env ga fault.message

theorem stop_configuration (m : String) : stop 2 s!"[red]Configuration error:[/red] {m}" =
    ⟨[(Notice.colored isColorName_red isLabel_configuration m).step], .exit 2⟩ := by
  rw [Notice.step, Notice.colored, ← String.append_assoc]
  rfl

theorem stop_error (m : String) : stop 2 s!"[red]Error:[/red] {m}" =
    ⟨[(Notice.colored isColorName_red isLabel_error m).step], .exit 2⟩ := by
  rw [Notice.step, Notice.colored, ← String.append_assoc]
  rfl

theorem stop_unknownRunner (name : String) :
    stop 2 s!"[red]Error:[/red] Unknown runner '{name}' ({Runner.names})" =
      ⟨[(Notice.colored isColorName_red isLabel_error
        s!"Unknown runner '{name}' ({Runner.names})").step], .exit 2⟩ := by
  rw [← stop_error]
  congr 1

theorem generate_of_refuses {m : String} (h : Refuses files env ga m) :
    generate files env ga =
        ⟨[(Notice.colored isColorName_red isLabel_configuration m).step], .exit 2⟩ ∨
      generate files env ga =
        ⟨[(Notice.colored isColorName_red isLabel_error m).step], .exit 2⟩ := by
  unfold generate
  cases h with
  | configuration h =>
    rw [h]
    exact Or.inl (stop_configuration _)
  | runner hconfig h =>
    rw [hconfig]
    dsimp only
    rw [h]
    exact Or.inr (stop_unknownRunner _)
  | @document config runner fault hconfig hrunner h hreported =>
    rw [hconfig]
    dsimp only
    rw [hrunner]
    dsimp only
    rw [h]
    cases fault with
    | unreadable path reason => exact Or.inr (stop_error _)
    | invalid path fault => exact Or.inr (stop_error _)
    | unhashable kind => cases hreported
    | tooManyDigits count => cases hreported
    | nameTooLong path => cases hreported

/-- The text that refuses a generation appears if and only if it is plain. -/
theorem Refuses.occurs_iff {m : String} (h : Refuses files env ga m) {screen : Screen}
    (hfits : (generate files env ga).Fits screen.width) :
    Text.Occurs m ((generate files env ga).perform screen files).stderr ↔ IsPlain m := by
  rcases generate_of_refuses h with hgenerate | hgenerate
  · rw [hgenerate] at hfits ⊢
    exact Transcript.occurs_perform_colored_iff _ _ (by decide +kernel) rfl m
      (hfits _ List.mem_cons_self)
  · rw [hgenerate] at hfits ⊢
    exact Transcript.occurs_perform_colored_iff _ _ (by decide +kernel) rfl m
      (hfits _ List.mem_cons_self)

/-- The records that a run shows include warnings. -/
def ShowsWarnings (env : Environment) (ga : GenerateArguments) : Prop :=
  ∃ config, Configuration.ofEnvironment env = .ok config ∧
    (if ga.verbose then LogLevel.debug else config.logLevel).rank ≤ LogLevel.warning.rank

theorem generate_of_failure {g : Generator} {failure : RenderFailure} (hsets : SetsUp files env ga g)
    (h : g.generate.outcome = .error failure) :
    ∃ records : List LogRecord,
      generate files env ga = ⟨records.map .log ++ failureMessages failure.error, .exit 1⟩ ∧
      (ShowsWarnings env ga →
        ∀ record ∈ g.generate.records, record.level = .warning → record ∈ records) := by
  obtain ⟨config, hconfig, hfails, -⟩ := generate_of_setsUp hsets
  rw [hfails failure h]
  refine ⟨_, rfl, ?_⟩
  rintro ⟨config', hconfig', hshown⟩ record hrecord hlevel
  obtain rfl := Except.ok.inj (hconfig.symm.trans hconfig')
  refine List.mem_filter.2 ⟨hrecord, ?_⟩
  rw [hlevel]
  exact decide_eq_true hshown

/-- The message about an error comes first. -/
theorem exists_notices (e : GenerationError) :
    ∃ notices, failureMessages e =
      (Notice.colored isColorName_red isLabel_failed e.message :: notices).map Notice.step := by
  by_cases hnamed : e.commandId.kind ≠ .null → e.commandId.isTruthy = true
  · exact ⟨_, failureMessages_of_named hnamed⟩
  · have hfalse : e.commandId.isTruthy = false := by
      simpa using fun htrue => hnamed fun _ => htrue
    exact ⟨[], failureMessages_of_unnamed hfalse⟩

theorem ne_log_of_notices {notices : List Notice} :
    ∀ step ∈ notices.map Notice.step, ∀ record, step ≠ .log record := by
  intro step hstep record
  obtain ⟨n, -, rfl⟩ := List.mem_map.1 hstep
  exact nofun

/-- What is not in the log adds nothing to it. -/
theorem log_records_append {records : List LogRecord} {steps : List Step} {ending : Ending}
    (h : ∀ step ∈ steps, ∀ record, step ≠ .log record) :
    Report.log ⟨records.map .log ++ steps, ending⟩ = LogRecord.lines records := by
  have hnone : (steps.filterMap fun step =>
      match step with
      | .log record => some record
      | _ => none) = [] := by
    rw [List.filterMap_eq_nil_iff]
    intro step hstep
    cases step with
    | log record => exact absurd rfl (h _ hstep record)
    | message markup => rfl
    | output text => rfl
    | write path text => rfl
  rw [Report.log, List.filterMap_append, hnone, List.append_nil, List.filterMap_map]
  congr 1
  exact List.filterMap_some

/-- What standard error tells of a generation that fails.  It is the log and the lines that are
meant if and only if the messages can tell of the error.  In any case the failure and the place
of its command appear if warnings are shown. -/
structure TellsOfFailure (screen : Screen) (env : Environment) (ga : GenerateArguments)
    (failure : RenderFailure) (report : Report) (stderr : String) : Prop where
  lines : report.Fits screen.width →
    (stderr = report.log ++ Text.block failure.error.lines ↔ failure.error.IsReadable)
  message : ShowsWarnings env ga ∨ report.Fits screen.width ∧ IsPlain failure.message →
    Text.Occurs failure.message stderr
  place : ∀ f, failure = .command f →
    ShowsWarnings env ga ∨ report.Fits screen.width ∧ failure.error.IsReadable →
      Text.Occurs f.commandId stderr ∧ Text.Occurs f.groupId.display stderr ∧
        Text.Occurs f.testId.display stderr

/-- What standard error tells of a source that is delivered.  It is the log and the lines that are
meant if and only if the texts in them are plain.  In a run that ends well the commands that are
followed by a wait are named if their ids are plain. -/
structure TellsOfSource (screen : Screen) (ga : GenerateArguments) (source : Fragment)
    (report : Report) (t : Transcript) : Prop where
  lines : report.Fits screen.width → (∀ fault, t.ending ≠ .crash (.write fault)) →
    (t.stderr = report.log ++ Text.block (deliveryLines ga source) ↔ NamesPlainly ga source)
  stops : report.Fits screen.width → t.ending = .exit 0 → ga.interactive = true →
    IsPlain (stopIds source) → Text.Occurs (stopIds source) t.stderr

theorem occurs_record (f : CommandFailure) :
    Text.Occurs f.commandId f.record.text ∧ Text.Occurs f.groupId.display f.record.text ∧
      Text.Occurs f.testId.display f.record.text := by
  have hid := Text.occurs_between "Failed to render command " f.commandId
    s!" (group {f.groupId.display}, test {f.testId.display}) {f.location}: {f.fault.message}"
  have hgroup := Text.occurs_between s!"Failed to render command {f.commandId} (group "
    f.groupId.display s!", test {f.testId.display}) {f.location}: {f.fault.message}"
  have htest := Text.occurs_between
    s!"Failed to render command {f.commandId} (group {f.groupId.display}, test "
    f.testId.display s!") {f.location}: {f.fault.message}"
  simp only [toString, String.append_assoc] at hid hgroup htest
  simp only [CommandFailure.record, toString, String.append_assoc]
  exact ⟨hid, hgroup, htest⟩

theorem occurs_placeText (f : CommandFailure) :
    Text.Occurs f.commandId (placeText f.error) ∧
      Text.Occurs f.groupId.display (placeText f.error) ∧
      Text.Occurs f.testId.display (placeText f.error) := by
  have hid := Text.occurs_between "  command " f.commandId
    s!" in group {f.groupId.display}, test {f.testId.display}"
  have hgroup := Text.occurs_between s!"  command {f.commandId} in group " f.groupId.display
    s!", test {f.testId.display}"
  have htest := Text.occurs_between
    s!"  command {f.commandId} in group {f.groupId.display}, test " f.testId.display ""
  simp only [toString, String.append_assoc, String.append_empty] at hid hgroup htest
  simp only [placeText, CommandFailure.error, Value.display, toString, String.append_assoc]
  exact ⟨hid, hgroup, htest⟩

/-- The message about an error appears if it is plain. -/
theorem occurs_message {t : Transcript} (hfits : ∀ step ∈ failureMessages e, step.Fits t.screen.width)
    (hplain : IsPlain e.message) : Text.Occurs e.message (t.perform (failureMessages e)).stderr := by
  obtain ⟨notices, hnotices⟩ := exists_notices e
  rw [hnotices, List.map_cons] at hfits ⊢
  have hline := Transcript.occurs_line_of_head (t := t) (notices.map Notice.step)
    (hfits _ List.mem_cons_self) (Notice.isPlain_text_colored_iff.2 hplain)
  have hmessage := ((Text.occurs_self e.message).append_left " ").append_left "Generation failed:"
  exact hmessage.trans hline

/-- The log of a run that fails appears first, warnings included if they are shown, and then there
are its messages. -/
theorem perform_of_failure {g : Generator} {failure : RenderFailure} (hsets : SetsUp files env ga g)
    (h : g.generate.outcome = .error failure) (screen : Screen) :
    ∃ t : Transcript, t.screen = screen ∧ t.stderr = (generate files env ga).log ∧
      (generate files env ga).perform screen files = t.perform (failureMessages failure.error) ∧
      ((generate files env ga).Fits screen.width →
        ∀ step ∈ failureMessages failure.error, step.Fits screen.width) ∧
      (ShowsWarnings env ga → ∀ record ∈ g.generate.records, record.level = .warning →
        ∀ text, Text.Occurs text record.text →
          Text.Occurs text ((generate files env ga).perform screen files).stderr) := by
  obtain ⟨records, hgenerate, hshown⟩ := generate_of_failure hsets h
  obtain ⟨notices, hnotices⟩ := exists_notices failure.error
  have hperform : (generate files env ga).perform screen files = Transcript.perform
      { screen, stderr := LogRecord.lines records, files, ending := .exit 1 }
      (failureMessages failure.error) := by
    rw [hgenerate, Report.perform, Transcript.perform_records, String.empty_append]
  refine ⟨_, rfl, ?_, hperform, fun hfits step hstep => ?_, ?_⟩
  · rw [hgenerate, hnotices, log_records_append ne_log_of_notices]
  · rw [hgenerate] at hfits
    exact hfits step (List.mem_append_right _ hstep)
  · intro hwarnings record hrecord hlevel text htext
    obtain ⟨out, hout⟩ := Transcript.exists_stderr_perform (failureMessages failure.error)
      { screen, stderr := LogRecord.lines records, files, ending := .exit 1 }
    rw [hperform, hout]
    exact (htext.lines (hshown hwarnings record hrecord hlevel)).append_right out

/-- What standard error tells of a failure. -/
theorem tellsOfFailure {g : Generator} {failure : RenderFailure} (hsets : SetsUp files env ga g)
    (h : g.generate.outcome = .error failure) (screen : Screen) :
    TellsOfFailure screen env ga failure (generate files env ga)
      ((generate files env ga).perform screen files).stderr := by
  obtain ⟨t, rfl, hlog, hperform, hsteps, hlogged⟩ := perform_of_failure hsets h screen
  obtain ⟨hfailure, hrecord⟩ := Generator.mem_records_of_failure h
  have hlines : (generate files env ga).Fits t.screen.width →
      (((generate files env ga).perform t.screen files).stderr =
        (generate files env ga).log ++ Text.block failure.error.lines ↔
          failure.error.IsReadable) := by
    intro hfits
    rw [hperform, ← hlog]
    exact stderr_failureMessages_iff failure.error t (hsteps hfits)
  refine ⟨hlines, ?_, ?_⟩
  · rintro (hwarnings | ⟨hfits, hplain⟩)
    · refine hlogged hwarnings _ hfailure rfl _ ?_
      exact (Text.occurs_self failure.message).append_left _
    · rw [← failure.message_error] at hplain ⊢
      rw [hperform]
      exact occurs_message (hsteps hfits) hplain
  · rintro f rfl (hwarnings | ⟨hfits, hreadable⟩)
    · obtain ⟨hid, hgroup, htest⟩ := occurs_record f
      have hfailed := hlogged hwarnings _ (hrecord f rfl) rfl
      exact ⟨hfailed _ hid, hfailed _ hgroup, hfailed _ htest⟩
    · obtain ⟨hid, hgroup, htest⟩ := occurs_placeText f
      have hplace : Text.Occurs (placeText f.error)
          ((generate files env ga).perform t.screen files).stderr := by
        rw [(hlines hfits).2 hreadable]
        refine Text.Occurs.append_left (Text.occurs_block ?_) _
        exact List.mem_cons_of_mem _ List.mem_cons_self
      exact ⟨hid.trans hplace, hgroup.trans hplace, htest.trans hplace⟩

theorem occurs_stopIds (source : Fragment) : Text.Occurs (stopIds source) (stopsLine source) := by
  unfold stopsLine
  dsimp only
  split
  · next hempty =>
    rw [hempty]
    exact List.nil_infix
  · exact (Text.occurs_self _).append_left "Interactive stops: "

/-- The log of a run that has its source appears first, then the source is delivered, and then
there are notices. -/
theorem perform_of_yields {source : Fragment} (hwhole : readsHalves files ga = false)
    (h : Yields files env args ga source) (screen : Screen) :
    ∃ t : Transcript, t.screen = screen ∧ t.stderr = (generate files env ga).log ∧
      (generate files env ga).perform screen files =
        t.perform (delivery ga source :: (deliveryNotices ga source).map Notice.step) ∧
      ((generate files env ga).Fits screen.width →
        ∀ n ∈ deliveryNotices ga source, n.step.Fits screen.width) := by
  obtain ⟨records, hgenerate⟩ := generate_of_yields hwhole h
  rw [deliver_eq_notices] at hgenerate
  have hperform : (generate files env ga).perform screen files = Transcript.perform
      { screen, stderr := LogRecord.lines records, files, ending := .exit 0 }
      (delivery ga source :: (deliveryNotices ga source).map Notice.step) := by
    rw [hgenerate, Report.perform, Transcript.perform_records, String.empty_append]
  refine ⟨_, rfl, ?_, hperform, fun hfits n hn => ?_⟩
  · rw [hgenerate, log_records_append]
    refine List.forall_mem_cons.2 ⟨fun record hrecord => ?_, ne_log_of_notices⟩
    unfold delivery at hrecord
    split at hrecord
    · cases hrecord
    · cases hrecord
  · rw [hgenerate] at hfits
    refine hfits n.step (List.mem_append_right _ (List.mem_cons_of_mem _ ?_))
    exact List.mem_map_of_mem hn

/-- What standard error tells of a source. -/
theorem tellsOfSource {source : Fragment} (hwhole : readsHalves files ga = false)
    (h : Yields files env args ga source) (screen : Screen) :
    TellsOfSource screen ga source (generate files env ga)
      ((generate files env ga).perform screen files) := by
  obtain ⟨t, rfl, hlog, hperform, hnotices⟩ := perform_of_yields hwhole h screen
  rw [hperform]
  constructor
  · intro hfits hwrite
    obtain ⟨t', hscreen, hstderr, hdelivery⟩ := perform_delivery hwrite
    have hfits' : ∀ n ∈ deliveryNotices ga source, n.step.Fits t'.screen.width := by
      rw [hscreen]
      exact hnotices hfits
    rw [hdelivery, ← hlog, ← hstderr, ← map_line_deliveryNotices,
      Transcript.stderr_perform_notices_iff _ _ hfits']
    exact forall_mem_deliveryNotices_iff ga source
  · intro hfits hending hinteractive hplain
    have hwrite : ∀ fault, (t.perform
        (delivery ga source :: (deliveryNotices ga source).map Notice.step)).ending ≠
          .crash (.write fault) := by
      intro fault hfault
      rw [hending] at hfault
      cases hfault
    obtain ⟨t', hscreen, -, hdelivery⟩ := perform_delivery hwrite
    rw [hdelivery] at hending ⊢
    have hmem : Notice.bare (stopsLine source) ∈ deliveryNotices ga source := by
      unfold deliveryNotices
      rw [if_pos hinteractive]
      exact List.mem_append_right _ List.mem_cons_self
    have hprinted : ∀ fault, (t'.perform ((deliveryNotices ga source).map Notice.step)).ending ≠
        .crash (.message fault) := by
      intro fault hfault
      rw [hending] at hfault
      cases hfault
    have hfits' : (Notice.bare (stopsLine source)).step.Fits t'.screen.width := by
      rw [hscreen]
      exact hnotices hfits _ hmem
    have hline := Transcript.occurs_line_of_mem hprinted hmem hfits'
      ((isPlain_stopsLine_iff source).2 hplain)
    rw [Notice.line_bare] at hline
    exact (occurs_stopIds source).trans hline

/-- **When diagnostics are intact.**  Arguments ask for a generation of documents without halves of
pairs, and the screen is wide enough for the messages, as far as these decide.  If the generation is
refused, the text that says why appears on standard error if and only if it is plain.  If it fails,
the failure and the ids of its command appear there in any case, as long as warnings are shown;
otherwise they depend on the messages, and the lines that are meant appear if and only if their texts
are plain and the command has an id.  If it gives a source, the lines about the file that is written
and about the commands that are followed by a wait appear if and only if their texts are plain. -/
theorem diagnostics_are_intact_iff (screen : Screen)
    (hargs : Invocation.ofArguments args = .generate ga)
    (hwhole : readsHalves files ga = false) :
    ∃ report, run? files env args = some report ∧
      (∀ m, Refuses files env ga m → report.Fits screen.width →
        (Text.Occurs m (report.perform screen files).stderr ↔ IsPlain m)) ∧
      (∀ g failure, SetsUp files env ga g → g.generate.outcome = .error failure →
        TellsOfFailure screen env ga failure report (report.perform screen files).stderr) ∧
      ∀ source, Yields files env args ga source →
        TellsOfSource screen ga source report (report.perform screen files) := by
  refine ⟨generate files env ga, run?_of_generate hargs, ?_, ?_, ?_⟩
  · intro m hrefuses hfits
    exact hrefuses.occurs_iff hfits
  · intro g failure hsets hfailure
    exact tellsOfFailure hsets hfailure screen
  · intro source hyields
    exact tellsOfSource hwhole hyields screen

/-! ### Runs on one command -/

/-- A suite whose one command has an id and a method of the page. -/
def shopFiles (id method : String) : Files :=
  .single "s.json" ("\x7b\"groups\": \x7b\"shop\": \x7b\"tests\": \x7b\"login\": \x7b\"commands\": \x7b\"" ++
    id ++ "\": \x7b\"target\": \"page\", \"method\": \"" ++ method ++
    "\"\x7d\x7d\x7d\x7d\x7d\x7d\x7d")

/-- An environment in which warnings are not shown. -/
def quietEnv : Environment := [(Configuration.logLevelVariable, "ERROR")]

/-- The failure of a command that goes to no address. -/
def aimlessFailure (id : String) : CommandFailure :=
  ⟨.missingParameter "url", .text "page", .text "goto", id, .text "shop", .text "login"⟩

theorem outcome?_aimless (id : String) (h : id = "pay" ∨ id = "") :
    outcome? (shopFiles id "goto") quietEnv { suitePath := "s.json" } =
      some (.error (.command (aimlessFailure id))) := by
  rcases h with rfl | rfl
  · decide +kernel
  · decide +kernel

/-- The failure of a command appears in the messages alone, as its texts are plain and its lines
are short. -/
theorem diagnostics_of_aimless :
    Invocation.ofArguments ["generate", "s.json"] = .generate { suitePath := "s.json" } ∧
      readsHalves (shopFiles "pay" "goto") { suitePath := "s.json" } = false ∧
      ∃ report, run? (shopFiles "pay" "goto") quietEnv ["generate", "s.json"] = some report ∧
        ∀ screen : Screen, screen.width = some 80 →
          (report.perform screen (shopFiles "pay" "goto")).stderr =
            report.log ++ "Generation failed: 'url' in page.goto\n" ++
              "  command pay in group shop, test login\n" := by
  have hargs : Invocation.ofArguments ["generate", "s.json"] =
      .generate { suitePath := "s.json" } := by decide
  have hwhole : readsHalves (shopFiles "pay" "goto") { suitePath := "s.json" } = false :=
    readsHalves_single (by decide +kernel) rfl
  have hrun : (run? (shopFiles "pay" "goto") quietEnv ["generate", "s.json"]).map
      (fun report => decide (report.Fits (some 80))) = some true := by decide +kernel
  obtain ⟨report, hreport, hfits⟩ := Option.map_eq_some_iff.1 hrun
  obtain ⟨g, hsets, houtcome⟩ := exists_setsUp_of_outcome? (outcome?_aimless "pay" (Or.inl rfl))
  refine ⟨hargs, hwhole, report, hreport, fun screen hwidth => ?_⟩
  obtain ⟨report', hreport', -, hfailure, -⟩ :=
    @diagnostics_are_intact_iff (shopFiles "pay" "goto") quietEnv _ _ screen hargs hwhole
  obtain rfl := Option.some.inj (hreport'.symm.trans hreport)
  have hreadable : (aimlessFailure "pay").error.IsReadable := by
    constructor
    · exact isPlain_of_light (by decide) (forall_isShown_of_all (by decide))
    · exact fun _ => by decide
    · exact fun _ => isPlain_of_light (by decide) (forall_isShown_of_all (by decide))
  have hfits : report'.Fits screen.width := by
    rw [hwidth]
    exact of_decide_eq_true hfits
  rw [((hfailure g _ hsets houtcome).lines hfits).2 hreadable, String.append_assoc]
  rfl

/-- A path in brackets is not named, nor is the place of a command without an id, nor an id in
brackets that is followed by a wait. -/
theorem diagnostics_are_damaged :
    (∃ report, run? {} [] ["generate", "[b].json"] = some report ∧
      Refuses {} [] { suitePath := "[b].json" } "Failed to load [b].json: file not found" ∧
      ¬Text.Occurs "Failed to load [b].json: file not found" (report.perform .endless {}).stderr) ∧
    (∃ report g, run? (shopFiles "" "goto") quietEnv ["generate", "s.json"] = some report ∧
      SetsUp (shopFiles "" "goto") quietEnv { suitePath := "s.json" } g ∧
      g.generate.outcome = .error (.command (aimlessFailure "")) ∧
      ¬Text.Occurs "shop" (report.perform .endless (shopFiles "" "goto")).stderr ∧
      ¬Text.Occurs "login" (report.perform .endless (shopFiles "" "goto")).stderr) ∧
    ∃ report source,
      run? (shopFiles "[b]" "reload") [] ["generate", "s.json", "--interactive"] = some report ∧
      Yields (shopFiles "[b]" "reload") [] ["generate", "s.json", "--interactive"]
        { suitePath := "s.json", interactive := true } source ∧
      (report.perform .endless (shopFiles "[b]" "reload")).ending = .exit 0 ∧
      ¬Text.Occurs (stopIds source) (report.perform .endless (shopFiles "[b]" "reload")).stderr := by
  refine ⟨?_, ?_, ?_⟩
  · have hrun : (run? {} [] ["generate", "[b].json"]).map
        (fun report => (report.perform .endless {}).stderr) =
          some "Error: Failed to load .json: file not found\n" := by decide +kernel
    have hload : (loadDocuments {} { suitePath := "[b].json" }).map (fun _ => ()) =
        .error (.unreadable "[b].json" .notFound) := by decide +kernel
    obtain ⟨report, hreport, hstderr⟩ := Option.map_eq_some_iff.1 hrun
    refine ⟨report, hreport, ?_, by rw [hstderr]; decide +kernel⟩
    cases hdocuments : loadDocuments {} { suitePath := "[b].json" } with
    | ok documents =>
      rw [hdocuments] at hload
      cases hload
    | error fault =>
      rw [hdocuments] at hload
      obtain rfl := Except.error.inj hload
      exact .document rfl rfl hdocuments trivial
  · have hrun : (run? (shopFiles "" "goto") quietEnv ["generate", "s.json"]).map
        (fun report => (report.perform .endless (shopFiles "" "goto")).stderr) =
          some "Generation failed: 'url' in page.goto\n" := by decide +kernel
    obtain ⟨report, hreport, hstderr⟩ := Option.map_eq_some_iff.1 hrun
    obtain ⟨g, hsets, houtcome⟩ := exists_setsUp_of_outcome? (outcome?_aimless "" (Or.inr rfl))
    refine ⟨report, g, hreport, hsets, houtcome, ?_, ?_⟩
    · rw [hstderr]
      decide +kernel
    · rw [hstderr]
      decide +kernel
  · have hrun : (run? (shopFiles "[b]" "reload") [] ["generate", "s.json", "--interactive"]).map
        (fun report => ((report.perform .endless (shopFiles "[b]" "reload")).ending,
          (report.perform .endless (shopFiles "[b]" "reload")).stderr)) =
          some (.exit 0, "Interactive stops: \n") := by decide +kernel
    have hids : (outcome? (shopFiles "[b]" "reload") []
        { suitePath := "s.json", interactive := true }).map (Except.map Fragment.interactiveIds) =
          some (.ok ["[b]"]) := by decide +kernel
    obtain ⟨report, hreport, hperform⟩ := Option.map_eq_some_iff.1 hrun
    obtain ⟨hending, hstderr⟩ := Prod.mk.inj hperform
    obtain ⟨outcome, houtcome, hsource⟩ := Option.map_eq_some_iff.1 hids
    obtain ⟨source, rfl, hstops⟩ := map_eq_ok_iff.1 hsource
    obtain ⟨g, hsets, hgenerate⟩ := exists_setsUp_of_outcome? houtcome
    refine ⟨report, source, hreport, ⟨by decide, g, hsets, hgenerate⟩, hending, ?_⟩
    rw [hstderr, stopIds, hstops]
    decide +kernel

end CommandLine

end SuiteCompiler
