/-
  SuiteCompiler/Proofs/Stops.lean
  ===============================
  The commands that the generated source stops after.

  The ids of these commands travel with the source through four layers of joins, and
  two of the layers throw away what has no source.  The invariant that saves the ids
  is `Fragment.Accounts`: a fragment that carries an id has source.  It holds of a
  command because a wait is never empty, a join keeps it, and a composer keeps it
  that gives source to every test and group with a body.
-/
import SuiteCompiler.Proofs.Reached

namespace SuiteCompiler

open Outcome

/-- A fragment carries these ids, and it has source if there are any. -/
structure Fragment.Accounts (f : Fragment) (ids : List String) : Prop where
  ids_eq : f.interactiveIds = ids
  ids_of_text : f.text = "" → ids = []

/-- Tests and groups that have a body have source. -/
structure Composer.KeepsBodies (composer : Composer) : Prop where
  test : ∀ {title body text}, composer.test title body = .ok text → body ≠ "" → text ≠ ""
  group : ∀ {title body text}, composer.group title body = .ok text → body ≠ "" → text ≠ ""

namespace Fragment

theorem accounts_empty : Fragment.empty.Accounts [] := ⟨rfl, fun _ => rfl⟩

/-- More source around a fragment keeps its ids accounted for. -/
theorem Accounts.of_text {f : Fragment} {ids : List String} (h : f.Accounts ids) {text : String}
    (htext : f.text ≠ "" → text ≠ "") : Accounts ⟨text, f.interactiveIds⟩ ids := by
  refine ⟨h.ids_eq, fun hempty => h.ids_of_text ?_⟩
  by_cases hf : f.text = ""
  · exact hf
  · exact absurd hempty (htext hf)

/-- A join without source joins fragments without source. -/
theorem text_eq_empty_of_join {fs : List Fragment} {separator : String}
    (h : (join fs separator).text = "") : ∀ f ∈ fs, f.text = "" := by
  induction fs with
  | nil => simp
  | cons f fs ih =>
    cases fs with
    | nil => simpa [join] using h
    | cons f' fs =>
      have hparts : f.text = "" ∧ (join (f' :: fs) separator).text = "" := by
        simp only [join, List.map_cons, String.intercalate_cons_cons, String.append_eq_empty_iff]
          at h ⊢
        exact ⟨h.1.1, h.2⟩
      intro d hd
      rcases List.mem_cons.1 hd with rfl | hd
      · exact hparts.1
      · exact ih hparts.2 d hd

theorem accounts_join {fs : List Fragment}
    (h : ∀ f ∈ fs, f.Accounts f.interactiveIds) (separator : String) :
    (join fs separator).Accounts (fs.flatMap interactiveIds) := by
  refine ⟨rfl, fun hempty => List.flatMap_eq_nil_iff.2 fun f hf => ?_⟩
  exact (h f hf).ids_of_text (text_eq_empty_of_join hempty f hf)

/-- The fragments without source can be left out of a join. -/
theorem accounts_join_filter {fs : List Fragment}
    (h : ∀ f ∈ fs, f.Accounts f.interactiveIds) (separator : String) :
    (join (fs.filter isTruthy) separator).Accounts (fs.flatMap interactiveIds) := by
  have hids : (fs.filter isTruthy).flatMap interactiveIds = fs.flatMap interactiveIds := by
    induction fs with
    | nil => rfl
    | cons f fs ih =>
      have hrest := ih fun d hd => h d (List.mem_cons_of_mem f hd)
      by_cases hf : f.text = ""
      · -- what is left out has no source, so it accounts for no ids
        have hnone := (h f List.mem_cons_self).ids_of_text hf
        rw [List.filter_cons_of_neg (by simp [isTruthy, hf]), hrest, List.flatMap_cons, hnone,
          List.nil_append]
      · rw [List.filter_cons_of_pos (by simp [isTruthy, hf]), List.flatMap_cons, hrest,
          List.flatMap_cons]
  rw [← hids]
  exact accounts_join (fun f hf => h f (List.mem_filter.1 hf).1) separator

/-- Fragments that account for the ids of the elements they come from, all together. -/
theorem accounts_of_mapM {ε α : Type} {F : α → Except ε Fragment} {ids : α → List String}
    {xs : List α} {fs : List Fragment} (h : ∀ x ∈ xs, ∀ f, F x = .ok f → f.Accounts (ids x))
    (hfs : xs.mapM F = .ok fs) :
    (∀ f ∈ fs, f.Accounts f.interactiveIds) ∧ fs.flatMap interactiveIds = xs.flatMap ids := by
  induction xs generalizing fs with
  | nil =>
    obtain rfl : [] = fs := Except.ok.inj hfs
    simp
  | cons x xs ih =>
    obtain ⟨f, rest, rfl, hf, hrest⟩ := mapM_cons_eq_ok_iff.1 hfs
    obtain ⟨hsound, hids⟩ := ih (fun y hy => h y (List.mem_cons_of_mem x hy)) hrest
    have hx := h x List.mem_cons_self f hf
    constructor
    · intro d hd
      rcases List.mem_cons.1 hd with rfl | hd
      · exact hx.ids_eq ▸ hx
      · exact hsound d hd
    · rw [List.flatMap_cons, List.flatMap_cons, hids, hx.ids_eq]

end Fragment

namespace Generator

/-- The ids of those among the given commands that the source stops after. -/
def stopIds (g : Generator) (cs : List Command) : List String :=
  ((cs.filter g.schema.serves).filter g.stopsAfter).map (·.id)

theorem stopIds_flatMap {α : Type} (g : Generator) (xs : List α) (f : α → List Command) :
    g.stopIds (xs.flatMap f) = xs.flatMap fun x => g.stopIds (f x) := by
  simp [stopIds, List.filter_flatMap, List.map_flatMap]

theorem finish_interactiveIds (g : Generator) {c : Command} {method : String}
    (h : c.method = .text method) (chunk : String) :
    (g.finish c chunk).interactiveIds = if g.stopsAfter c then [c.id] else [] := by
  unfold finish instrument
  rw [h, Value.text?, Option.getD_some, waitsAfter_eq h]
  cases g.runner <;> rfl

theorem finish_text (g : Generator) {c : Command} {method : String}
    (h : c.method = .text method) (chunk : String) :
    (g.finish c chunk).text =
      (match g.runner with
        | .embedded => Marker.line c ++ "\n"
        | .exported => "") ++
      (chunk ++ (if g.options.trace then Instrumentation.trace c else "") ++
        (if g.stopsAfter c then Instrumentation.wait c.id else "")) := by
  unfold finish instrument
  rw [h, Value.text?, Option.getD_some, waitsAfter_eq h]
  cases g.runner <;> cases g.options.trace <;> cases g.stopsAfter c <;>
    simp [toString, String.append_assoc]

/-! ### Every stage accounts for its commands -/

theorem wait_ne_empty (commandId : String) : Instrumentation.wait commandId ≠ "" := by
  unfold Instrumentation.wait
  rw [ne_eq, String.append_eq_empty_iff, String.append_eq_empty_iff]
  exact fun h => absurd h.1.2 (by decide)

theorem accounts_renderPlain (g : Generator) {c : Command} {f : Fragment}
    (h : (g.renderPlain c).outcome = .ok f) : f.Accounts (g.stopIds [c]) := by
  cases hserves : g.schema.serves c with
  | false =>
    obtain rfl := eq_empty_of_renderPlain g hserves h
    simpa [stopIds, hserves] using Fragment.accounts_empty
  | true =>
    rw [outcome_renderPlain_of_serves g hserves, mapError_eq_ok_iff, map_eq_ok_iff] at h
    obtain ⟨chunk, -, rfl⟩ := h
    obtain ⟨method, -, hmethod, -⟩ := Schema.serves_iff.1 hserves
    refine ⟨?_, fun hempty => ?_⟩
    · rw [finish_interactiveIds g hmethod]
      cases hstops : g.stopsAfter c <;> simp [stopIds, hserves, hstops]
    · -- where there is an id there is a wait, and a wait is some text
      rw [finish_text g hmethod] at hempty
      cases hstops : g.stopsAfter c with
      | false => simp [stopIds, hserves, hstops]
      | true =>
        simp only [hstops, if_true, String.append_eq_empty_iff] at hempty
        exact absurd hempty.2.2 (wait_ne_empty c.id)

theorem fence_ne_empty (title : Value) (body assignment : String) :
    Instrumentation.fence title body assignment ≠ "" := by
  unfold Instrumentation.fence
  rw [ne_eq, String.append_eq_empty_iff]
  exact fun h => absurd h.2 (by decide)

theorem accounts_renderReference (g : Generator) {c : Command} (href : c.isRef = true)
    {bindings : Fields} {f : Fragment}
    (h : (g.renderReference c.ref bindings).outcome = .ok f) :
    f.Accounts (g.stopIds (g.snippets.expand c)) := by
  rw [outcome_renderReference] at h
  cases hfound : g.snippets.getTest? c.ref with
  | error kind => simp [hfound] at h
  | ok found =>
    cases found with
    | none =>
      obtain rfl : Fragment.empty = f := by simpa [hfound] using h
      simpa [SnippetLibrary.expand, href, hfound, stopIds] using Fragment.accounts_empty
    | some test =>
      simp only [hfound] at h
      obtain ⟨fs, hfs, h⟩ := bind_eq_ok_iff.1 h
      obtain rfl := Except.ok.inj h
      obtain ⟨hsound, hids⟩ := Fragment.accounts_of_mapM
        (fun d _ f hf => accounts_renderPlain g hf) hfs
      have hjoin := Fragment.accounts_join hsound "\n"
      rw [hids, ← stopIds_flatMap, List.flatMap_singleton'] at hjoin
      rw [SnippetLibrary.expand_of_isRef href hfound]
      exact hjoin.of_text fun _ => fence_ne_empty _ _ _

theorem accounts_renderCommand (g : Generator) {c : Command} (henabled : c.disabled = false)
    {f : Fragment} (h : (g.renderCommand c).outcome = .ok f) :
    f.Accounts (g.stopIds (g.snippets.expand c)) := by
  rw [outcome_renderCommand g henabled] at h
  cases href : c.isRef with
  | true => exact accounts_renderReference g href (by simpa [href] using h)
  | false =>
    rw [SnippetLibrary.expand_of_not_isRef href]
    exact accounts_renderPlain g (by simpa [href] using h)

theorem accounts_renderTest (g : Generator) (hcomposer : g.schema.composer.KeepsBodies) {t : Test}
    {f : Fragment} (h : (g.renderTest t).outcome = .ok f) :
    f.Accounts (g.stopIds (t.encountered g.snippets)) := by
  rw [outcome_renderTest] at h
  cases hempty : t.enabledCommands.isEmpty with
  | true =>
    obtain rfl : Fragment.empty = f := by simpa [hempty] using h
    rw [Test.encountered, List.isEmpty_iff.1 hempty]
    exact Fragment.accounts_empty
  | false =>
    simp only [hempty, Bool.false_eq_true, if_false] at h
    obtain ⟨fs, hfs, h⟩ := bind_eq_ok_iff.1 h
    obtain ⟨text, htext, h⟩ := bind_eq_ok_iff.1 h
    obtain rfl := Except.ok.inj h
    have hcommand : ∀ c ∈ t.enabledCommands, ∀ f, (g.renderCommand c).outcome = .ok f →
        f.Accounts (g.stopIds (g.snippets.expand c)) := fun c hc f hf =>
      accounts_renderCommand g (by simpa using (List.mem_filter.1 hc).2) hf
    obtain ⟨hsound, hids⟩ := Fragment.accounts_of_mapM hcommand hfs
    have hjoin := Fragment.accounts_join hsound "\n"
    rw [hids, ← stopIds_flatMap] at hjoin
    exact hjoin.of_text (hcomposer.test (mapError_eq_ok_iff.1 htext))

theorem accounts_renderGroup (g : Generator) (hcomposer : g.schema.composer.KeepsBodies)
    {group : Group} {f : Fragment} (h : (g.renderGroup group).outcome = .ok f) :
    f.Accounts (g.stopIds (group.encountered g.snippets)) := by
  rw [outcome_renderGroup] at h
  obtain ⟨fs, hfs, h⟩ := bind_eq_ok_iff.1 h
  obtain ⟨hsound, hids⟩ := Fragment.accounts_of_mapM
    (fun t _ f hf => accounts_renderTest g hcomposer hf) hfs
  have hjoin := Fragment.accounts_join_filter hsound "\n"
  rw [hids, ← stopIds_flatMap] at hjoin
  cases hempty : (fs.filter Fragment.isTruthy).isEmpty with
  | true =>
    obtain rfl : Fragment.empty = f := by simpa [hempty] using h
    rw [List.isEmpty_iff.1 hempty] at hjoin
    exact hjoin
  | false =>
    simp only [hempty, Bool.false_eq_true, if_false] at h
    obtain ⟨text, htext, h⟩ := bind_eq_ok_iff.1 h
    obtain rfl := Except.ok.inj h
    exact hjoin.of_text (hcomposer.group (mapError_eq_ok_iff.1 htext))

theorem accounts_renderBody (g : Generator) (hcomposer : g.schema.composer.KeepsBodies)
    {f : Fragment} (h : g.renderBody = .ok f) :
    f.Accounts (g.stopIds (g.suite.encountered g.snippets)) := by
  obtain ⟨fs, hfs, h⟩ := bind_eq_ok_iff.1 h
  obtain rfl := Except.ok.inj h
  obtain ⟨hsound, hids⟩ := Fragment.accounts_of_mapM
    (fun group _ f hf => accounts_renderGroup g hcomposer hf) hfs
  have hjoin := Fragment.accounts_join_filter hsound "\n"
  rw [hids, ← stopIds_flatMap] at hjoin
  exact hjoin

/-! ### The ids of a generation -/

/-- The commands that the source stops after, told by the methods that no wait follows. -/
theorem stopIds_encountered (g : Generator) :
    g.stopIds (g.suite.encountered g.snippets) =
      if g.options.interactiveMode then
        (g.reached.filter fun c => decide (c.method ∉ g.illegalMethods)).map (·.id)
      else [] := by
  unfold stopIds GeneratorInput.reached stopsAfter
  cases g.options.interactiveMode with
  | false => simp
  | true => simp [List.contains_eq_mem]

/-- A generation returns the ids of the commands that its source stops after. -/
theorem interactiveIds_eq_stopIds (g : Generator) (hcomposer : g.schema.composer.KeepsBodies)
    {r : Fragment} (h : g.generate.outcome = .ok r) :
    r.interactiveIds = g.stopIds (g.suite.encountered g.snippets) := by
  rw [outcome_generate] at h
  obtain ⟨body, hbody, h⟩ := bind_eq_ok_iff.1 h
  obtain ⟨targets, -, h⟩ := bind_eq_ok_iff.1 (mapError_eq_ok_iff.1 h)
  obtain ⟨source, -, h⟩ := bind_eq_ok_iff.1 h
  obtain rfl := Except.ok.inj h
  exact (accounts_renderBody g hcomposer hbody).ids_eq

/-- **Interactive accounting.**  The ids that a generation returns are those of the reached
commands whose method may be followed by a wait, in the order of the suite and with multiplicity,
and none if there is no interactive mode; and the composer was given the same ids. -/
theorem interactiveIds_of_generate (g : Generator) (hcomposer : g.schema.composer.KeepsBodies)
    {r : Fragment} (h : g.generate.outcome = .ok r) :
    (r.interactiveIds =
      if g.options.interactiveMode then
        (g.reached.filter fun c => decide (c.method ∉ g.illegalMethods)).map (·.id)
      else []) ∧
    ∃ targets body, g.renderBody = .ok body ∧
      g.resolver.render g.schema.composer = .ok targets ∧
      g.schema.composer.suite (g.suiteContext targets body) = .ok r.text ∧
      (g.suiteContext targets body).interactiveIds = r.interactiveIds := by
  rw [outcome_generate] at h
  obtain ⟨body, hbody, h⟩ := bind_eq_ok_iff.1 h
  obtain ⟨targets, htargets, h⟩ := bind_eq_ok_iff.1 (mapError_eq_ok_iff.1 h)
  obtain ⟨source, hsource, h⟩ := bind_eq_ok_iff.1 h
  obtain rfl := Except.ok.inj h
  refine ⟨?_, targets, body, hbody, htargets, hsource, rfl⟩
  rw [← stopIds_encountered]
  exact (accounts_renderBody g hcomposer hbody).ids_eq

/-- A suite with a renderer that writes nothing, a method that no wait follows, and a snippet that
is inlined twice, under a composer that adds nothing to a body. -/
def pausingInput : GeneratorInput where
  suite :=
    { title := .text "Shop"
      targets := []
      groups := [("g", {
        id := "g", title := .text "Cart", disabled := false
        tests := [
          ("t", {
            id := "t", title := .text "Pays", disabled := false
            commands := [.acting "c1" "BUY" "click" "g" "t", .acting "c2" "BUY" "type" "g" "t",
              .referring "c3" "login" "g" "t"] }),
          ("u", {
            id := "u", title := .text "Leaves", disabled := false
            commands := [.referring "c4" "login" "g" "u", .acting "c5" "BUY" "pay" "g" "u"] })] })] }
  schema :=
    { composer :=
        { query := fun _ => .ok ""
          test := fun _ body => .ok body
          group := fun _ body => .ok body
          suite := fun ctx => .ok ctx.body }
      element := [("click", fun _ => .ok ""), ("type", fun _ => .ok "")] }
  snippets :=
    { targets := []
      tests := [("login", {
        id := "login", title := .text "Login", disabled := false
        commands := [.acting "s1" "USER" "click" "snippets" "login"] })] }
  options := { interactiveMode := true }
  illegalMethods := [.text "type"]

def pausing : Generator := { pausingInput with selectors := [], selectors_eq := rfl }

/-- The snippet counts twice; what no renderer serves and what no wait follows do not count. -/
theorem interactiveIds_of_pausing :
    pausing.generate.outcome.map Fragment.interactiveIds = .ok ["c1", "s1", "s1"] ∧
    (pausing.reached.filter fun c => decide (c.method ∉ pausing.illegalMethods)).map (·.id) =
      ["c1", "s1", "s1"] := by
  have hcomposer : pausing.schema.composer.KeepsBodies := by
    constructor
    · intro title body text htext hbody
      rwa [← Except.ok.inj htext]
    · intro title body text htext hbody
      rwa [← Except.ok.inj htext]
  have hids : pausing.generate.outcome.map Fragment.interactiveIds = .ok ["c1", "s1", "s1"] := rfl
  obtain ⟨r, hr, hrids⟩ := map_eq_ok_iff.1 hids
  refine ⟨hids, ?_⟩
  rw [← hrids]
  exact (interactiveIds_of_generate pausing hcomposer hr).1.symm

end Generator

end SuiteCompiler
