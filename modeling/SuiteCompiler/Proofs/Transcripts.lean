/-
  SuiteCompiler/Proofs/Transcripts.lean
  =====================================
  What appears of the steps of a run.

  Records and messages are quiet: they appear on standard error and nowhere else
  (`Transcript.perform_of_quiet`).  A message that cannot be printed ends the run, and
  that is quiet too.  A record cannot end it, so what follows the records of a run is
  done whatever they are (`Transcript.perform_records`).  All that a run of the command
  line does before it has a source is quiet, and so is all that it does after it has
  delivered one (`CommandLine.deliver_eq`), as it always does if the documents have no
  halves of pairs in their texts (`CommandLine.finish_of_whole`).
-/
import SuiteCompiler.CommandLine.Run

namespace SuiteCompiler

/-- Whether a step appears on standard error alone. -/
def Step.isQuiet : Step → Bool
  | .log _ | .message _ => true
  | .output _ | .write _ _ => false

/-- All steps appear on standard error alone. -/
def AllQuiet (steps : List Step) : Prop := ∀ step ∈ steps, step.isQuiet = true

theorem AllQuiet.append {before steps : List Step} (hbefore : AllQuiet before)
    (hsteps : AllQuiet steps) : AllQuiet (before ++ steps) := by
  intro step hmem
  rcases List.mem_append.1 hmem with hmem | hmem
  · exact hbefore step hmem
  · exact hsteps step hmem

/-- The lines of records. -/
def LogRecord.lines : List LogRecord → String
  | [] => ""
  | record :: records => record.line ++ lines records

namespace Transcript

/-- Quiet steps leave standard output and the files as they are. -/
theorem perform_of_quiet {steps : List Step} (h : AllQuiet steps) (t : Transcript) :
    (t.perform steps).stdout = t.stdout ∧ (t.perform steps).files = t.files := by
  induction steps generalizing t with
  | nil => exact ⟨rfl, rfl⟩
  | cons step steps ih =>
    have hsteps : AllQuiet steps := fun step' hmem => h step' (List.mem_cons_of_mem step hmem)
    cases step with
    | log record =>
      rw [perform]
      exact ih hsteps _
    | message markup =>
      rw [perform]
      split
      · exact ih hsteps _
      · exact ⟨rfl, rfl⟩
    | output text => cases h _ List.mem_cons_self
    | write path text => cases h _ List.mem_cons_self

/-- Records add their lines to standard error, and no more. -/
theorem perform_records (records : List LogRecord) (steps : List Step) (t : Transcript) :
    t.perform (records.map .log ++ steps) =
      perform { t with stderr := t.stderr ++ LogRecord.lines records } steps := by
  induction records generalizing t with
  | nil =>
    rw [LogRecord.lines, String.append_empty]
    rfl
  | cons record records ih =>
    rw [List.map_cons, List.cons_append, perform, ih, LogRecord.lines, String.append_assoc]

/-- What has appeared on standard error stays. -/
theorem exists_stderr_perform (steps : List Step) (t : Transcript) :
    ∃ out, (t.perform steps).stderr = t.stderr ++ out := by
  induction steps generalizing t with
  | nil => exact ⟨"", String.append_empty.symm⟩
  | cons step steps ih =>
    cases step with
    | log record =>
      obtain ⟨out, hout⟩ := ih { t with stderr := t.stderr ++ record.line }
      exact ⟨record.line ++ out, hout.trans String.append_assoc⟩
    | output text =>
      rw [perform]
      exact ih _
    | message markup =>
      rw [perform]
      cases Console.Message.render markup with
      | error fault => exact ⟨"", String.append_empty.symm⟩
      | ok text =>
        obtain ⟨out, hout⟩ := ih { t with stderr := t.stderr ++ t.screen.wrap text ++ "\n" }
        refine ⟨t.screen.wrap text ++ "\n" ++ out, hout.trans ?_⟩
        simp only [String.append_assoc]
    | write path text =>
      rw [perform]
      cases t.files.write path text.toUTF8.toList with
      | error fault => exact ⟨"", String.append_empty.symm⟩
      | ok placed => exact ih _

end Transcript

namespace CommandLine

theorem quiet_stop (status : Nat) (message : String) : AllQuiet (stop status message).steps :=
  List.forall_mem_singleton.2 rfl

theorem quiet_loadFailed (fault : LoadFault) : AllQuiet (loadFailed fault).steps := by
  cases fault with
  | unreadable path reason => exact quiet_stop _ _
  | invalid path fault => exact quiet_stop _ _
  | unhashable kind => exact List.forall_mem_nil _
  | tooManyDigits count => exact List.forall_mem_nil _
  | nameTooLong path => exact List.forall_mem_nil _

theorem quiet_shownRecords (config : Configuration) (verbose : Bool) (records : List LogRecord) :
    AllQuiet (shownRecords config verbose records) := by
  intro step hstep
  obtain ⟨record, -, rfl⟩ := List.mem_map.1 hstep
  rfl

theorem quiet_failureMessages (e : GenerationError) : AllQuiet (failureMessages e) := by
  unfold failureMessages
  dsimp only
  split
  · exact List.forall_mem_cons.2 ⟨rfl, List.forall_mem_singleton.2 rfl⟩
  · exact List.forall_mem_singleton.2 rfl

/-- The step that delivers a source. -/
def delivery (ga : GenerateArguments) (source : Fragment) : Step :=
  match ga.output with
  | none => .output source.text
  | some path => .write (Path.ofString path) source.text

/-- After a source is delivered there are messages. -/
theorem deliver_eq (ga : GenerateArguments) (source : Fragment) :
    ∃ after, AllQuiet after ∧ deliver ga source = delivery ga source :: after := by
  have hstops : ∀ message, AllQuiet (if ga.interactive then [Step.message message] else []) := by
    intro message
    split
    · exact List.forall_mem_singleton.2 rfl
    · exact List.forall_mem_nil _
  unfold deliver delivery
  cases ga.output with
  | none => exact ⟨_, hstops _, rfl⟩
  | some path => exact ⟨_, AllQuiet.append (List.forall_mem_singleton.2 rfl) (hstops _), rfl⟩

/-! ### Sources without halves -/

variable {ga : GenerateArguments} {source : Fragment}

/-- A source of documents without halves is delivered. -/
theorem finish_of_whole (log : List Step) :
    finish false ga log source = ⟨log ++ deliver ga source, .exit 0⟩ := by
  unfold finish
  cases ga.output <;> rfl

/-- A run that has its source delivers it, or makes the file for it and leaves it empty. -/
theorem finish_cases (halves : Bool) (ga : GenerateArguments) (log : List Step)
    (source : Fragment) :
    finish halves ga log source = ⟨log ++ deliver ga source, .exit 0⟩ ∨
      ∃ path, ga.output = some path ∧
        finish halves ga log source =
          ⟨log ++ [.write (Path.ofString path) ""], .crash .notEncodable⟩ := by
  unfold finish
  split
  · next path houtput =>
    split
    · exact Or.inr ⟨path, houtput, rfl⟩
    · exact Or.inl rfl
  · exact Or.inl rfl

end CommandLine

end SuiteCompiler
