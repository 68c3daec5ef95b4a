/-
  SuiteCompiler/Proofs/Instruments.lean
  =====================================
  Instrumentation does not interfere.

  Tracing calls, waits and markers are written around the text of a command that is
  already there, so they have no part in whether a generation fails, and how:
  `check_generate` tells the failure of a generation from the walk over the commands
  and from the declarations, and neither knows of instrumentation.  That no test
  appears or vanishes with the text of its commands is up to the composer, which
  gives source to every test with commands.
-/
import SuiteCompiler.Proofs.Listing

namespace SuiteCompiler

open Outcome

/-- The settings that decide which instrumentation is written. -/
structure Instruments where
  trace : Bool
  interactiveMode : Bool
  runner : Runner
  deriving DecidableEq, Repr

namespace Generator

/-- The generation with other instrumentation. -/
def instrumented (g : Generator) (i : Instruments) : Generator :=
  { g with
    runner := i.runner
    options := { g.options with trace := i.trace, interactiveMode := i.interactiveMode } }

/-! ### Failures -/

/-- A generation fails as the walk over its commands does, or else as its declarations do. -/
theorem check_generate (g : Generator) (hbelow : g.schema.composer.TotalBelowSuite)
    (hsuite : ∀ ctx, ∃ text, g.schema.composer.suite ctx = .ok text) :
    check g.generate.outcome =
      g.verdict >>= fun _ => (check (g.resolver.render g.schema.composer)).mapError .template := by
  have hcompose : ∀ body, check ((g.composeSuite body).mapError RenderFailure.template) =
      (check (g.resolver.render g.schema.composer)).mapError .template := by
    intro body
    unfold composeSuite
    cases g.resolver.render g.schema.composer with
    | error fault => rfl
    | ok targets =>
      obtain ⟨source, hsource⟩ := hsuite (g.suiteContext targets body)
      rw [ok_bind, hsource]
      rfl
  rw [outcome_generate, ← check_renderBody g hbelow]
  cases g.renderBody with
  | error failure => rfl
  | ok body => exact hcompose body

/-- Below the declarations the built-in composer does not fail. -/
theorem check_generate_of_composer {g : Generator} (hcomposer : g.schema.composer = Jest.composer) :
    check g.generate.outcome =
      g.verdict >>= fun _ => (check (g.resolver.render g.schema.composer)).mapError .template :=
  check_generate g (hcomposer ▸ Jest.composer_totalBelowSuite)
    (hcomposer ▸ fun ctx => ⟨Jest.suite ctx, rfl⟩)

theorem verdict_instrumented (g : Generator) (i : Instruments) :
    (g.instrumented i).verdict = g.verdict := rfl

theorem check_instrumented {g : Generator} (hcomposer : g.schema.composer = Jest.composer)
    (i : Instruments) : check (g.instrumented i).generate.outcome = check g.generate.outcome := by
  have hcomposer' : (g.instrumented i).schema.composer = Jest.composer := hcomposer
  rw [check_generate_of_composer hcomposer, check_generate_of_composer hcomposer',
    verdict_instrumented]
  rfl

/-! ### Ids -/

/-- What the source stops after is decided by the interactive mode alone. -/
theorem interactiveIds_instrumented {g : Generator} (hcomposer : g.schema.composer = Jest.composer)
    (i : Instruments) {r : Fragment} (h : (g.instrumented i).generate.outcome = .ok r) :
    r.interactiveIds =
      if i.interactiveMode then
        (g.reached.filter fun c => decide (c.method ∉ g.illegalMethods)).map (·.id)
      else [] := by
  have hkeeps : (g.instrumented i).schema.composer.KeepsBodies :=
    hcomposer ▸ Jest.keepsBodies_composer
  rw [interactiveIds_eq_stopIds _ hkeeps h, stopIds_encountered]
  rfl

/-- **Instrumentation does not interfere.**  Two generations that differ in their instrumentation
both have a source, or both fail, at the same place and with the same fault.  If both have one and
the interactive mode is on in both or off in both, they return the same ids, and without the
interactive mode there are none. -/
theorem outcome_of_instrumented {g : Generator} (hcomposer : g.schema.composer = Jest.composer)
    (i j : Instruments) :
    ((∃ r s, (g.instrumented i).generate.outcome = .ok r ∧
        (g.instrumented j).generate.outcome = .ok s) ∨
      ∃ failure, (g.instrumented i).generate.outcome = .error failure ∧
        (g.instrumented j).generate.outcome = .error failure) ∧
    (∀ r s, (g.instrumented i).generate.outcome = .ok r →
      (g.instrumented j).generate.outcome = .ok s → i.interactiveMode = j.interactiveMode →
      r.interactiveIds = s.interactiveIds) ∧
    (i.interactiveMode = false →
      ∀ r, (g.instrumented i).generate.outcome = .ok r → r.interactiveIds = []) := by
  have hcheck : check (g.instrumented i).generate.outcome =
      check (g.instrumented j).generate.outcome := by
    rw [check_instrumented hcomposer, check_instrumented hcomposer]
  refine ⟨?_, fun r s hr hs hmode => ?_, fun hoff r hr => ?_⟩
  · cases hi : (g.instrumented i).generate.outcome with
    | ok r =>
      rw [hi, check_ok, eq_comm, check_eq_ok_iff] at hcheck
      obtain ⟨s, hs⟩ := hcheck
      exact .inl ⟨r, s, rfl, hs⟩
    | error failure =>
      rw [hi, check_error, eq_comm, check_eq_error_iff] at hcheck
      exact .inr ⟨failure, rfl, hcheck⟩
  · rw [interactiveIds_instrumented hcomposer i hr, interactiveIds_instrumented hcomposer j hs,
      hmode]
  · rw [interactiveIds_instrumented hcomposer i hr, hoff]
    rfl

/-- A suite whose only command has a renderer of its own, which writes nothing. -/
def quiet : Generator where
  suite :=
    { title := .text "Shop"
      targets := []
      groups := [("g", {
        id := "g", title := .text "Cart", disabled := false
        tests := [("t", {
          id := "t", title := .text "Rests", disabled := false
          commands := [.acting "c1" "BUY" "rest" "g" "t"] })] })] }
  schema := Jest.schema.insert .element "rest" fun _ => .ok ""
  selectors := []
  selectors_eq := rfl

/-- With all instrumentation and with waits alone there is a source that stops once, although the
command has no text of its own. -/
theorem quiet_instrumented :
    ∃ r s, (quiet.instrumented ⟨true, true, .embedded⟩).generate.outcome = .ok r ∧
      (quiet.instrumented ⟨false, true, .exported⟩).generate.outcome = .ok s ∧
      r.interactiveIds = ["c1"] ∧ s.interactiveIds = ["c1"] := by
  have hsame := outcome_of_instrumented (g := quiet) rfl ⟨true, true, .embedded⟩
    ⟨false, true, .exported⟩
  have hchecked :
      check (quiet.instrumented ⟨false, true, .exported⟩).generate.outcome = .ok () := by
    rw [check_instrumented rfl, check_generate quiet Jest.composer_totalBelowSuite
      fun ctx => ⟨Jest.suite ctx, rfl⟩]
    rfl
  obtain ⟨s, hs⟩ := check_eq_ok_iff.1 hchecked
  rcases hsame.1 with ⟨r, s', hr, -⟩ | ⟨failure, -, hfailure⟩
  · have hids : s.interactiveIds = ["c1"] := interactiveIds_instrumented rfl _ hs
    exact ⟨r, s, hr, hs, (hsame.2.1 r s hr hs rfl).trans hids, hids⟩
  · rw [hs] at hfailure
    cases hfailure

end Generator

end SuiteCompiler
