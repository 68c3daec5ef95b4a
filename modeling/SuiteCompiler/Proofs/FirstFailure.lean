/-
  SuiteCompiler/Proofs/FirstFailure.lean
  ======================================
  Which failure a generation reports.

  The stages of the generator are nested: tests are rendered inside groups and
  snippets inside tests, and the composer is called in between.  Whether the body
  fails, and how, is nevertheless decided by one walk over the commands
  (`check_renderBody`), since a composer that does not fail on tests and groups adds
  nothing to it.  If every method and reference is a text, the walk visits just the
  reached commands (`verdict_eq_forM_reached`), and `generate_reports_first_failure`
  names the error of every generation.

  The error of a command has the place of the command.  A fault of a target or of the
  suite has no place, but a template of the composer can raise the error of a generation
  by itself, with a place of its own, and that one is told as it is (`IsToldBy`).
-/
import SuiteCompiler.Proofs.Reached

namespace SuiteCompiler

open Outcome

/-- The templates of tests and of groups do not fail; those of targets and of the suite may. -/
structure Composer.TotalBelowSuite (composer : Composer) : Prop where
  test : ∀ title body, ∃ text, composer.test title body = .ok text
  group : ∀ title body, ∃ text, composer.group title body = .ok text

/-- The method of a command is a text, and its reference is one or is not given. -/
structure Command.IsNamed (c : Command) : Prop where
  method : ∃ name, c.method = .text name
  ref : c.ref = .null ∨ ∃ name, c.ref = .text name

namespace Generator

/-! ### The walk over the commands -/

/-- Whether a command that is no reference can be rendered. -/
def checkPlain (g : Generator) (c : Command) : Except RenderFailure Unit :=
  (g.schema.supports c.kind c.method >>= fun supported =>
    if supported then check (g.commandText c) else .ok ()).mapError
      fun fault => .command (.of c fault)

/-- Whether an enabled command can be rendered. -/
def checkCommand (g : Generator) (c : Command) : Except RenderFailure Unit :=
  if c.isRef then
    match g.snippets.getTest? c.ref with
    | .error kind => .error (.template (.unhashable kind))
    | .ok none => .ok ()
    | .ok (some test) => (test.enabledCommands.filter (!·.isRef)).forM g.checkPlain
  else g.checkPlain c

/-- Whether the enabled commands of a suite can be rendered, up to the first that cannot. -/
def verdict (g : Generator) : Except RenderFailure Unit :=
  g.suite.enabledGroups.forM fun group =>
    group.enabledTests.forM fun t => t.enabledCommands.forM g.checkCommand

theorem verdict_eq_forM (g : Generator) :
    g.verdict = g.suite.enabledCommands.forM g.checkCommand := by
  unfold verdict Suite.enabledCommands
  simp only [forM_flatMap]

theorem check_renderPlain (g : Generator) (c : Command) :
    check (g.renderPlain c).outcome = g.checkPlain c := by
  rw [outcome_renderPlain, renderPlain?_eq, checkPlain]
  cases g.schema.supports c.kind c.method with
  | error fault => rfl
  | ok supported =>
    cases supported with
    | false => rfl
    | true => cases g.commandText c <;> rfl

theorem check_renderReference (g : Generator) {c : Command} (h : c.isRef = true)
    (bindings : Fields) :
    check (g.renderReference c.ref bindings).outcome = g.checkCommand c := by
  rw [outcome_renderReference, checkCommand, if_pos h]
  cases g.snippets.getTest? c.ref with
  | error kind => rfl
  | ok found =>
    cases found with
    | none => rfl
    | some test =>
      dsimp only
      rw [check_bind_pure, check_mapM]
      exact forM_congr fun d _ => check_renderPlain g d

theorem check_renderCommand (g : Generator) {c : Command} (h : c.disabled = false) :
    check (g.renderCommand c).outcome = g.checkCommand c := by
  rw [outcome_renderCommand g h]
  cases href : c.isRef with
  | true => exact check_renderReference g href _
  | false => simpa [checkCommand, href] using check_renderPlain g c

theorem check_renderTest (g : Generator) (hcomposer : g.schema.composer.TotalBelowSuite)
    (t : Test) :
    check (g.renderTest t).outcome = t.enabledCommands.forM g.checkCommand := by
  rw [outcome_renderTest]
  cases hempty : t.enabledCommands.isEmpty with
  | true =>
    rw [List.isEmpty_iff.1 hempty]
    rfl
  | false =>
    rw [if_neg Bool.false_ne_true, check_bind_of_total, check_mapM]
    · refine forM_congr fun c hc => check_renderCommand g ?_
      simpa using (List.mem_filter.1 hc).2
    · intro commands
      obtain ⟨text, htext⟩ := hcomposer.test (.text (testTitle t)) (Fragment.join commands "\n").text
      exact ⟨⟨text, _⟩, by simp only [htext]; rfl⟩

theorem check_renderGroup (g : Generator) (hcomposer : g.schema.composer.TotalBelowSuite)
    (group : Group) :
    check (g.renderGroup group).outcome =
      group.enabledTests.forM fun t => t.enabledCommands.forM g.checkCommand := by
  rw [outcome_renderGroup, check_bind_of_total, check_mapM]
  · exact forM_congr fun t _ => check_renderTest g hcomposer t
  · intro tests
    dsimp only
    split
    · exact ⟨_, rfl⟩
    · obtain ⟨text, htext⟩ := hcomposer.group group.title
        (Fragment.join (tests.filter Fragment.isTruthy) "\n").text
      exact ⟨⟨text, _⟩, by simp only [htext]; rfl⟩

/-- The body of a suite fails as the walk over its commands does. -/
theorem check_renderBody (g : Generator) (hcomposer : g.schema.composer.TotalBelowSuite) :
    check g.renderBody = g.verdict := by
  unfold renderBody verdict
  rw [check_bind_pure, check_mapM]
  exact forM_congr fun group _ => check_renderGroup g hcomposer group

/-! ### The reached commands decide -/

/-- Whether a reached command can be rendered. -/
def checkReached (g : Generator) (c : Command) : Except RenderFailure Unit :=
  (check (g.commandText c)).mapError fun fault => .command (.of c fault)

theorem checkPlain_of_isNamed (g : Generator) {c : Command} (h : c.IsNamed) :
    g.checkPlain c = if g.schema.serves c then g.checkReached c else .ok () := by
  obtain ⟨name, hname⟩ := h.method
  have hsupports : g.schema.supports c.kind c.method = .ok (g.schema.serves c) := by
    unfold Schema.serves Schema.supports Schema.find?
    rw [hname]
    rfl
  rw [checkPlain, hsupports]
  cases g.schema.serves c <;> rfl

theorem checkCommand_of_isNamed (g : Generator) (h : ∀ c ∈ g.commands, c.IsNamed) {c : Command}
    (hc : c.IsNamed) :
    g.checkCommand c = ((g.snippets.expand c).filter g.schema.serves).forM g.checkReached := by
  rw [forM_filter]
  cases href : c.isRef with
  | false =>
    rw [SnippetLibrary.expand_of_not_isRef href, checkCommand, href]
    rw [if_neg Bool.false_ne_true, checkPlain_of_isNamed g hc]
    cases hs : g.schema.serves c
    · simp [hs]
    · cases hr : g.checkReached c <;> simp [hs, hr]
  | true =>
    rw [checkCommand, if_pos href]
    cases hfound : g.snippets.getTest? c.ref with
    | error kind =>
      -- only a list or an object is no key, and neither is a text
      rcases hc.ref with hnull | ⟨name, hname⟩
      · rw [hnull] at hfound
        cases hfound
      · rw [hname] at hfound
        cases hfound
    | ok found =>
      cases found with
      | none => simp [SnippetLibrary.expand, href, hfound]
      | some test =>
        rw [SnippetLibrary.expand_of_isRef href hfound]
        refine forM_congr fun d hd => checkPlain_of_isNamed g (h d ?_)
        exact GeneratorInput.mem_commands_of_snippet hfound (List.mem_filter.1 hd).1

/-- If methods and references are texts, the walk over the commands visits the reached ones. -/
theorem verdict_eq_forM_reached (g : Generator) (h : ∀ c ∈ g.commands, c.IsNamed) :
    g.verdict = g.reached.forM g.checkReached := by
  unfold GeneratorInput.reached verdict
  rw [forM_filter, Suite.encountered, forM_flatMap]
  refine forM_congr fun group hgroup => ?_
  rw [Group.encountered, forM_flatMap]
  refine forM_congr fun t ht => ?_
  rw [Test.encountered, forM_flatMap]
  refine forM_congr fun c hc => ?_
  rw [← forM_filter]
  exact checkCommand_of_isNamed g h (h c (GeneratorInput.mem_commands_of_suite hgroup ht hc))

theorem checkReached_eq_ok_iff {g : Generator} {c : Command} :
    g.checkReached c = .ok () ↔ ∃ text, g.commandText c = .ok text := by
  unfold checkReached
  cases g.commandText c <;> simp

/-- The body fails as the first reached command that cannot be rendered. -/
theorem renderBody_of_firstError (g : Generator) (hcomposer : g.schema.composer.TotalBelowSuite)
    (hnamed : ∀ c ∈ g.commands, c.IsNamed) {c : Command} {fault : TemplateFault}
    (h : FirstError g.commandText g.reached c fault) :
    g.renderBody = .error (.command (.of c fault)) := by
  have hreached : FirstError g.checkReached g.reached c (.command (.of c fault)) := by
    obtain ⟨before, after, hcs, hbefore, hc⟩ := h
    refine ⟨before, after, hcs, fun d hd => ⟨(), ?_⟩, ?_⟩
    · exact checkReached_eq_ok_iff.2 (hbefore d hd)
    · simp [checkReached, hc]
  rw [← check_eq_error_iff, check_renderBody g hcomposer, verdict_eq_forM_reached g hnamed]
  exact forM_eq_error_iff.2 ⟨c, hreached⟩

/-- There is a body if every reached command can be rendered, and only then. -/
theorem renderBody_ok_iff (g : Generator) (hcomposer : g.schema.composer.TotalBelowSuite)
    (hnamed : ∀ c ∈ g.commands, c.IsNamed) :
    (∃ body, g.renderBody = .ok body) ↔ ∀ c ∈ g.reached, ∃ text, g.commandText c = .ok text := by
  rw [← check_eq_ok_iff, check_renderBody g hcomposer, verdict_eq_forM_reached g hnamed,
    forM_eq_ok_iff]
  exact forall_congr' fun c => imp_congr_right fun _ => checkReached_eq_ok_iff

end Generator

/-! ### Declarations -/

theorem TargetResolver.declare_eq_mapM (composer : Composer) (ts : List Target) :
    declare composer ts = ts.mapM composer.query := by
  induction ts with
  | nil => rfl
  | cons t ts ih => rw [declare, List.mapM_cons, ih]

theorem TargetResolver.render_eq (r : TargetResolver) (composer : Composer) :
    r.render composer =
      r.declarations.mapM composer.query >>= fun texts => .ok ("\n".intercalate texts) := by
  rw [render, declare_eq_mapM]
  rfl

/-! ### The reported failure -/

/-- The error of a command has its place, which stands once in the text. -/
theorem CommandFailure.error_of (c : Command) (fault : TemplateFault) :
    (CommandFailure.of c fault).error = {
      message := fault.message ++ " in " ++ c.target.display ++ "." ++ c.method.display
      target := c.target
      method := c.method
      commandId := .text c.id
      groupId := c.groupId
      testId := c.testId
      cause := some fault.cause } := by
  have hmessage : (CommandFailure.of c fault).message =
      fault.message ++ " in " ++ c.target.display ++ "." ++ c.method.display := by
    simp [CommandFailure.of, message, location, locationText, toString, String.append_assoc]
  rw [error, hmessage]
  rfl

/-- How a fault of no command is told.  If it is the error of a generation, that is told as it is.
Any other fault is told by its text, with no place, and the error comes from it. -/
structure TemplateFault.IsToldBy (fault : TemplateFault) (error : GenerationError) : Prop where
  own : ∀ own, fault = .generation own → error = own
  other : (∀ own, fault ≠ .generation own) →
    error = { message := fault.message, cause := some fault.cause }

theorem TemplateFault.isToldBy_error (fault : TemplateFault) : fault.IsToldBy fault.error := by
  constructor
  · rintro own rfl
    rfl
  · intro hother
    cases fault with
    | generation own => exact absurd rfl (hother own)
    | _ => rfl

namespace Generator

/-- **Which error a generation tells.**  If a reached command cannot be rendered, it is the error
of the first one: the place of that command is in it, once in its text, and the fault is what it
comes from, whatever the declarations do.  Else it tells the fault of the first target that cannot
be declared, or of the suite.  Else there is a source, which the suite template made of the
declarations and the body. -/
theorem generate_reports_first_failure (g : Generator)
    (hcomposer : g.schema.composer.TotalBelowSuite) (hnamed : ∀ c ∈ g.commands, c.IsNamed) :
    (∀ d ∈ g.reached, ∀ fault', g.commandText d = .error fault' →
      ∃ c fault failure, FirstError g.commandText g.reached c fault ∧
        g.generate.outcome = .error failure ∧
        failure.error = {
          message := fault.message ++ " in " ++ c.target.display ++ "." ++ c.method.display
          target := c.target
          method := c.method
          commandId := .text c.id
          groupId := c.groupId
          testId := c.testId
          cause := some fault.cause }) ∧
    ((∀ c ∈ g.reached, ∃ text, g.commandText c = .ok text) →
      ∃ body, g.renderBody = .ok body ∧
        (∀ t' ∈ g.resolver.declarations, ∀ fault', g.schema.composer.query t' = .error fault' →
          ∃ t fault failure, FirstError g.schema.composer.query g.resolver.declarations t fault ∧
            g.generate.outcome = .error failure ∧ fault.IsToldBy failure.error) ∧
        ∀ texts, g.resolver.declarations.mapM g.schema.composer.query = .ok texts →
          (∀ fault, g.schema.composer.suite (g.suiteContext ("\n".intercalate texts) body) =
              .error fault →
            ∃ failure, g.generate.outcome = .error failure ∧ fault.IsToldBy failure.error) ∧
          ∀ source, g.schema.composer.suite (g.suiteContext ("\n".intercalate texts) body) =
              .ok source →
            g.generate.outcome = .ok ⟨source, body.interactiveIds⟩) := by
  constructor
  · intro d hd fault' hfault'
    obtain ⟨c, fault, hfirst⟩ := exists_firstError hd hfault'
    refine ⟨c, fault, .command (.of c fault), hfirst, ?_, CommandFailure.error_of c fault⟩
    rw [outcome_generate, renderBody_of_firstError g hcomposer hnamed hfirst]
    rfl
  · intro hreached
    obtain ⟨body, hbody⟩ := (renderBody_ok_iff g hcomposer hnamed).2 hreached
    have hgenerate : g.generate.outcome = (g.composeSuite body).mapError .template := by
      rw [outcome_generate, hbody]
      rfl
    refine ⟨body, hbody, ?_, ?_⟩
    · intro t' ht' fault' hfault'
      obtain ⟨t, fault, hfirst⟩ := exists_firstError ht' hfault'
      refine ⟨t, fault, .template fault, hfirst, ?_, fault.isToldBy_error⟩
      rw [hgenerate, composeSuite, TargetResolver.render_eq, mapM_eq_error_iff.2 ⟨t, hfirst⟩]
      rfl
    · intro texts htexts
      constructor
      · intro fault hfault
        refine ⟨.template fault, ?_, fault.isToldBy_error⟩
        rw [hgenerate, composeSuite, TargetResolver.render_eq, htexts]
        simp [hfault]
      · intro source hsource
        rw [hgenerate, composeSuite, TargetResolver.render_eq, htexts]
        simp [hsource]

/-- A suite whose second command stands for a snippet with a failing command, under a composer
that cannot declare the target either. -/
def failingInput : GeneratorInput where
  suite :=
    { title := .text "Shop"
      targets := [(.text "BUY", ⟨.text "BUY", .text "#buy", .text "BUY"⟩)]
      groups := [("g", {
        id := "g", title := .text "Cart", disabled := false
        tests := [("t", {
          id := "t", title := .text "Pays", disabled := false
          commands := [.acting "c1" "BUY" "click" "g" "t", .referring "c2" "login" "g" "t"] })] })] }
  schema :=
    { composer :=
        { query := fun _ => .error (.supplied "ValueError" "no query")
          test := fun _ body => .ok body
          group := fun _ body => .ok body
          suite := fun ctx => .ok ctx.body }
      element := [("click", fun _ => .ok "click();"),
        ("sign", fun _ => .error (.supplied "ValueError" "no sign"))] }
  snippets :=
    { targets := []
      tests := [("login", {
        id := "login", title := .text "Login", disabled := false
        commands := [.referring "s0" "login" "snippets" "login",
          .acting "s1" "BUY" "sign" "snippets" "login",
          .acting "s2" "BUY" "sign" "snippets" "login"] })] }

def failing : Generator :=
  { failingInput with selectors := [(.text "BUY", .text "#buy")], selectors_eq := rfl }

theorem isNamed_of_mem_failingInput {c : Command} (hc : c ∈ failingInput.commands) :
    c.IsNamed := by
  simp only [GeneratorInput.commands, failingInput] at hc
  simp only [List.flatMap_cons, List.flatMap_nil, List.append_nil, List.mem_append,
    List.mem_cons, List.not_mem_nil, or_false] at hc
  rcases hc with (rfl | rfl) | rfl | rfl | rfl
  all_goals exact ⟨⟨_, rfl⟩, by simp [Command.acting, Command.referring]⟩

theorem reached_failingInput : failingInput.reached = [.acting "c1" "BUY" "click" "g" "t",
    .acting "s1" "BUY" "sign" "snippets" "login", .acting "s2" "BUY" "sign" "snippets" "login"] :=
  rfl

/-- The command of the snippet is reported, not the reference and not the declaration. -/
theorem failure_of_inlined_command_is_reported :
    failing.reached = [.acting "c1" "BUY" "click" "g" "t",
      .acting "s1" "BUY" "sign" "snippets" "login", .acting "s2" "BUY" "sign" "snippets" "login"] ∧
    ∃ failure, failing.generate.outcome = .error failure ∧
      failure.error = {
        message := "no sign in BUY.sign"
        target := .text "BUY"
        method := .text "sign"
        commandId := .text "s1"
        groupId := .text "snippets"
        testId := .text "login"
        cause := some ⟨.supplied "ValueError", "no sign"⟩ } := by
  have hreached := reached_failingInput
  refine ⟨hreached, ?_⟩
  have hsign : failing.commandText (.acting "s1" "BUY" "sign" "snippets" "login") =
      .error (.supplied "ValueError" "no sign") := rfl
  have hfirst : FirstError failing.commandText failing.reached
      (.acting "s1" "BUY" "sign" "snippets" "login") (.supplied "ValueError" "no sign") := by
    refine ⟨[.acting "c1" "BUY" "click" "g" "t"], _, hreached, ?_, hsign⟩
    simp only [List.mem_singleton, forall_eq]
    exact ⟨"click();", rfl⟩
  have hcomposer : failing.schema.composer.TotalBelowSuite :=
    ⟨fun _ body => ⟨body, rfl⟩, fun _ body => ⟨body, rfl⟩⟩
  have hnamed : ∀ c ∈ failing.commands, c.IsNamed := fun _ => isNamed_of_mem_failingInput
  have hmem : Command.acting "s1" "BUY" "sign" "snippets" "login" ∈ failingInput.reached := by
    simp [hreached]
  obtain ⟨c, fault, failure, hc, hgenerate, herror⟩ :=
    (generate_reports_first_failure failing hcomposer hnamed).1 _ hmem _ hsign
  obtain ⟨rfl, rfl⟩ := hc.unique hfirst
  exact ⟨failure, hgenerate, herror⟩

/-! ### Errors that are not told so -/

/-- The error of a generation that a suite template raises by itself. -/
def ownError : GenerationError where
  message := "no room"
  target := .text "BUY"
  method := .text "click"
  commandId := .text "c1"

/-- The suite with the methods in order, under a composer that raises its own error. -/
def relaying : Generator where
  toGeneratorInput :=
    { failingInput with
      schema :=
        { composer :=
            { query := fun _ => .ok "query"
              test := fun _ body => .ok body
              group := fun _ body => .ok body
              suite := fun _ => .error (.generation ownError) }
          element := [("click", fun _ => .ok "click();"), ("sign", fun _ => .ok "sign();")] } }
  selectors := [(.text "BUY", .text "#buy")]
  selectors_eq := rfl

/-- The suite with a failing command, and with a list for the name of its target. -/
def listedInput : GeneratorInput :=
  { failingInput with
    suite := { failingInput.suite with
      targets := [(.text "BUY", ⟨.list [.text "BUY"], .text "#buy", .text "BUY"⟩)] } }

/-- All commands can be rendered, and still the error has a place and does not come from another
one.  With a list for the name of a target there is a failing command and no generation. -/
theorem place_is_told_without_failing_command :
    (relaying.schema.composer.TotalBelowSuite ∧ (∀ c ∈ relaying.commands, c.IsNamed) ∧
      (∀ c ∈ relaying.reached, ∃ text, relaying.commandText c = .ok text) ∧
      ∃ failure, relaying.generate.outcome = .error failure ∧ failure.error = ownError ∧
        ownError.location = some "BUY.click" ∧ ownError.cause = none) ∧
    (listedInput.schema.composer.TotalBelowSuite ∧ (∀ c ∈ listedInput.commands, c.IsNamed) ∧
      .acting "s1" "BUY" "sign" "snippets" "login" ∈ listedInput.reached ∧
      (∀ ctx, listedInput.schema.render .element (.text "sign") ctx =
        .error (.supplied "ValueError" "no sign")) ∧
      Generator.ofInput listedInput = .error (.unhashable .list)) := by
  refine ⟨⟨?_, fun _ => isNamed_of_mem_failingInput, ?_, ?_⟩,
    ?_, fun _ => isNamed_of_mem_failingInput, ?_, fun _ => rfl, rfl⟩
  · exact ⟨fun _ body => ⟨body, rfl⟩, fun _ body => ⟨body, rfl⟩⟩
  · have hreached : relaying.reached = failingInput.reached := rfl
    intro c hc
    rw [hreached, reached_failingInput] at hc
    simp only [List.mem_cons, List.not_mem_nil, or_false] at hc
    rcases hc with rfl | rfl | rfl
    · exact ⟨"click();", rfl⟩
    · exact ⟨"sign();", rfl⟩
    · exact ⟨"sign();", rfl⟩
  · exact ⟨.template (.generation ownError), rfl, rfl, by decide, rfl⟩
  · exact ⟨fun _ body => ⟨body, rfl⟩, fun _ body => ⟨body, rfl⟩⟩
  · have hreached : listedInput.reached = failingInput.reached := rfl
    rw [hreached, reached_failingInput]
    exact List.mem_cons_of_mem _ List.mem_cons_self

end Generator

end SuiteCompiler
