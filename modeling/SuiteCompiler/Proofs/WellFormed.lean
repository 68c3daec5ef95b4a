/-
  SuiteCompiler/Proofs/WellFormed.lean
  ====================================
  The inputs that the built-in schema makes a source of.

  Every method has a demand on its command, listed beside the renderers and in their
  order (`pageDemands`, `elementDemands`).  A renderer succeeds exactly on what its
  demand allows (`forall₂_pageDemands`, `forall₂_elementDemands`), whatever selector
  is bound, and the composer can fail on nothing but the name of a target.  So
  whether there is a source can be read off the documents
  (`succeeds_iff_wellFormed`).
-/
import Mathlib.Data.List.Forall2
import SuiteCompiler.Proofs.FirstFailure
import SuiteCompiler.Proofs.Grammar
import SuiteCompiler.Proofs.Methods

namespace SuiteCompiler

open Outcome

namespace Jest

/-! ### Demands -/

/-- A parameter is given. -/
def Gives (c : Command) (name : String) : Prop := ∃ v, c.params.get? name = some v

/-- A parameter is given and stands for a whole number. -/
def GivesInteger (c : Command) (name : String) : Prop :=
  ∃ v, c.params.get? name = some v ∧ IsConvertible v

/-- The assertion of a command has a value. -/
def Asserts (c : Command) : Prop :=
  ∃ fields v, c.assertion = some fields ∧ fields.get? "value" = some v

/-- The target of a command can stand as an identifier. -/
def NamesElement (c : Command) : Prop :=
  ∃ name, c.target = .text name ∧ Text.isIdentifier name = true

/-- What each method of the page asks of a command. -/
def pageDemands : List (String × (Command → Prop)) :=
  [("goto", fun c => Gives c "url" ∧ ∀ v, c.params.get? "timeout" = some v → IsConvertible v),
   ("setViewport", fun c => GivesInteger c "width" ∧ GivesInteger c "height"),
   ("screenshot", fun _ => True),
   ("waitForTimeout", fun c => GivesInteger c "value"),
   ("reload", fun _ => True),
   ("assertTitle", Asserts)]

/-- What each method of an element asks of a command besides its target. -/
def elementDemands : List (String × (Command → Prop)) :=
  [("click", fun _ => True), ("type", fun c => Gives c "value"), ("focus", fun _ => True),
   ("hover", fun _ => True), ("assertVisible", fun _ => True), ("assertText", Asserts)]

/-- The demands of the methods of a kind. -/
def demands : TargetKind → List (String × (Command → Prop))
  | .page => pageDemands
  | .element => elementDemands

/-- A command has what its method asks for. -/
structure Meets (c : Command) : Prop where
  demand : ∀ name demand, c.method = .text name →
    (demands c.kind).lookup name = some demand → demand c
  element : c.kind = .element → NamesElement c

/-! ### Parts -/

section Parts

variable (c : Command) (selector : Value) (method : String)

theorem exists_element_iff :
    (∃ text, element (Generator.context c selector method) = .ok text) ↔ NamesElement c := by
  simp only [element_eq_ok_iff, Generator.context, NamesElement]
  constructor
  · rintro ⟨_, name, htarget, hname, -⟩
    exact ⟨name, htarget, hname⟩
  · rintro ⟨name, htarget, hname⟩
    exact ⟨_, name, htarget, hname, rfl⟩

theorem exists_integerParam_iff (name : String) :
    (∃ n, integerParam (Generator.context c selector method) name = .ok n) ↔
      GivesInteger c name := by
  simp only [integerParam_eq_ok_iff, Generator.context, GivesInteger, ← exists_toInteger_iff]
  constructor
  · rintro ⟨n, v, hv, hn⟩
    exact ⟨v, hv, n, hn⟩
  · rintro ⟨v, hv, n, hn⟩
    exact ⟨n, v, hv, hn⟩

theorem exists_assertedValue_iff :
    (∃ v, assertedValue (Generator.context c selector method) = .ok v) ↔ Asserts c := by
  simp only [assertedValue_eq_ok_iff, Generator.context, Asserts]
  exact exists_comm

end Parts

/-! ### Renderers against demands -/

/-- A renderer succeeds on a command if and only if the demand allows it. -/
def Decides (renderer : Renderer) (demand : Command → Prop) : Prop :=
  ∀ c selector method,
    (∃ text, renderer (Generator.context c selector method) = .ok text) ↔ demand c

/-- That there is a text made of something says that there is something to make it of. -/
theorem exists_made_iff {α : Type} {P : α → Prop} {make : α → String} :
    (∃ text, ∃ a, P a ∧ text = make a) ↔ ∃ a, P a := by
  rw [exists_comm]
  exact exists_congr fun a => by simp

theorem decides_goto :
    Decides goto fun c =>
      Gives c "url" ∧ ∀ v, c.params.get? "timeout" = some v → IsConvertible v := by
  intro c selector method
  have htimeout : (∃ n, toInteger ((c.params.get? "timeout").getD (.int navigationTimeout)) =
      .ok n) ↔ ∀ v, c.params.get? "timeout" = some v → IsConvertible v := by
    rw [exists_toInteger_iff]
    cases c.params.get? "timeout" with
    | none => simp [IsConvertible]
    | some v => simp
  simp only [goto_eq_ok_iff, Generator.context, Gives, ← htimeout]
  constructor
  · rintro ⟨_, url, n, hurl, hn, -⟩
    exact ⟨⟨url, hurl⟩, n, hn⟩
  · rintro ⟨⟨url, hurl⟩, n, hn⟩
    exact ⟨_, url, n, hurl, hn, rfl⟩

theorem decides_setViewport :
    Decides setViewport fun c => GivesInteger c "width" ∧ GivesInteger c "height" := by
  intro c selector method
  simp only [setViewport_eq_ok_iff,
    ← exists_integerParam_iff c selector method]
  constructor
  · rintro ⟨_, width, height, hwidth, hheight, -⟩
    exact ⟨⟨width, hwidth⟩, height, hheight⟩
  · rintro ⟨⟨width, hwidth⟩, height, hheight⟩
    exact ⟨_, width, height, hwidth, hheight, rfl⟩

theorem decides_screenshot : Decides screenshot fun _ => True := by
  intro c selector method
  simp [screenshot_eq_ok_iff]

theorem decides_waitForTimeout : Decides waitForTimeout fun c => GivesInteger c "value" := by
  intro c selector method
  simp only [waitForTimeout_eq_ok_iff, exists_made_iff, exists_integerParam_iff]

theorem decides_reload : Decides reload fun _ => True := by
  intro c selector method
  simp [reload_eq_ok_iff]

theorem decides_assertTitle : Decides assertTitle Asserts := by
  intro c selector method
  simp only [assertTitle_eq_ok_iff, exists_made_iff, exists_assertedValue_iff]

theorem decides_click : Decides click NamesElement := by
  intro c selector method
  simp only [click_eq_ok_iff, exists_made_iff, exists_element_iff]

theorem decides_typeText : Decides typeText fun c => NamesElement c ∧ Gives c "value" := by
  intro c selector method
  simp only [typeText_eq_ok_iff,
    ← exists_element_iff c selector method]
  constructor
  · rintro ⟨_, e, v, he, hv, -⟩
    exact ⟨⟨e, he⟩, v, hv⟩
  · rintro ⟨⟨e, he⟩, v, hv⟩
    exact ⟨_, e, v, he, hv, rfl⟩

theorem decides_focus : Decides focus NamesElement := by
  intro c selector method
  simp only [focus_eq_ok_iff, exists_made_iff, exists_element_iff]

theorem decides_hover : Decides hover NamesElement := by
  intro c selector method
  simp only [hover_eq_ok_iff, exists_made_iff, exists_element_iff]

theorem decides_assertVisible : Decides assertVisible NamesElement := by
  intro c selector method
  simp only [assertVisible_eq_ok_iff, exists_made_iff, exists_element_iff]

theorem decides_assertText : Decides assertText fun c => NamesElement c ∧ Asserts c := by
  intro c selector method
  simp only [assertText_eq_ok_iff, ← exists_element_iff c selector method,
    ← exists_assertedValue_iff c selector method]
  constructor
  · rintro ⟨_, v, e, hv, he, -⟩
    exact ⟨⟨e, he⟩, v, hv⟩
  · rintro ⟨⟨e, he⟩, v, hv⟩
    exact ⟨_, v, e, hv, he, rfl⟩

/-! ### Commands -/

/-- A method has the renderer and the demand of one place in two lists. -/
def Agree (renderers : List (String × Renderer)) (demands : List (String × (Command → Prop)))
    (also : Command → Prop) : Prop :=
  List.Forall₂ (fun r d => r.1 = d.1 ∧ Decides r.2 fun c => also c ∧ d.2 c) renderers demands

theorem agree (kind : TargetKind) :
    Agree (schema.renderers kind) (demands kind) fun c => kind = .element → NamesElement c := by
  cases kind with
  | page =>
    simp only [Agree, reduceCtorEq, false_implies, true_and]
    exact .cons ⟨rfl, decides_goto⟩ <| .cons ⟨rfl, decides_setViewport⟩ <|
      .cons ⟨rfl, decides_screenshot⟩ <| .cons ⟨rfl, decides_waitForTimeout⟩ <|
      .cons ⟨rfl, decides_reload⟩ <| .cons ⟨rfl, decides_assertTitle⟩ .nil
  | element =>
    have hnamed : ∀ {renderer : Renderer}, Decides renderer NamesElement →
        Decides renderer fun c => NamesElement c ∧ True := by
      intro renderer h c selector method
      simpa using h c selector method
    simp only [Agree, true_implies]
    exact .cons ⟨rfl, hnamed decides_click⟩ <| .cons ⟨rfl, decides_typeText⟩ <|
      .cons ⟨rfl, hnamed decides_focus⟩ <| .cons ⟨rfl, hnamed decides_hover⟩ <|
      .cons ⟨rfl, hnamed decides_assertVisible⟩ <| .cons ⟨rfl, decides_assertText⟩ .nil

/-- A method that has a renderer has a demand, and the renderer decides it. -/
theorem Agree.exists_demand {renderers : List (String × Renderer)}
    {demands : List (String × (Command → Prop))} {also : Command → Prop}
    (h : Agree renderers demands also) {name : String} {renderer : Renderer}
    (hr : renderers.lookup name = some renderer) :
    ∃ demand, demands.lookup name = some demand ∧ Decides renderer fun c => also c ∧ demand c := by
  induction h with
  | nil => cases hr
  | @cons r d _ _ hrow _ ih =>
    obtain ⟨rname, r⟩ := r
    obtain ⟨dname, d⟩ := d
    obtain ⟨rfl, hd⟩ := hrow
    rw [List.lookup_cons] at hr ⊢
    cases hname : name == rname with
    | true =>
      rw [hname] at hr
      obtain rfl := Option.some.inj hr
      exact ⟨d, rfl, hd⟩
    | false =>
      rw [hname] at hr
      exact ih hr

/-- A supported command has a text if and only if it has what its method asks for. -/
theorem exists_commandText_iff {g : Generator} (hschema : g.schema = schema) {c : Command}
    (hserves : g.schema.serves c = true) : (∃ text, g.commandText c = .ok text) ↔ Meets c := by
  obtain ⟨name, renderer, hname, hrenderer⟩ := Schema.serves_iff.1 hserves
  have htext := Generator.commandText_eq hname hrenderer
  rw [hschema] at hrenderer
  obtain ⟨demand, hdemand, hdecides⟩ := (agree c.kind).exists_demand hrenderer
  have hmeets : Meets c ↔ (c.kind = .element → NamesElement c) ∧ demand c := by
    constructor
    · intro h
      exact ⟨h.element, h.demand name demand hname hdemand⟩
    · rintro ⟨helement, hd⟩
      refine ⟨fun name' demand' hname' hdemand' => ?_, helement⟩
      obtain rfl := Value.text.inj (hname.symm.trans hname')
      obtain rfl := Option.some.inj (hdemand.symm.trans hdemand')
      exact hd
  rw [htext, hmeets]
  constructor
  · rintro ⟨text, h⟩
    obtain ⟨selector, -, hr⟩ := bind_eq_ok_iff.1 h
    exact (hdecides c selector name).1 ⟨text, hr⟩
  · intro h
    -- a text can be looked up: the page is one, and the name of an element is asked for
    obtain ⟨target, htarget⟩ : ∃ target, c.target = .text target := by
      cases hkind : c.kind with
      | page =>
        have hpage : c.target.text? = some "page" := by
          by_contra hne
          simp [Command.kind, hne] at hkind
        cases ht : c.target <;> simp_all [Value.text?]
      | element =>
        obtain ⟨target, htarget, -⟩ := h.1 hkind
        exact ⟨target, htarget⟩
    obtain ⟨text, hr⟩ := (hdecides c _ name).2 h
    exact ⟨text, bind_eq_ok_iff.2 ⟨_, by rw [htarget, Generator.selector_text], hr⟩⟩

/-! ### Suites -/

theorem composer_totalBelowSuite : composer.TotalBelowSuite :=
  ⟨fun title body => ⟨test title body, rfl⟩, fun title body => ⟨group title body, rfl⟩⟩

theorem exists_query_iff {t : Target} :
    (∃ text, query t = .ok text) ↔ ∃ name, t.name = .text name ∧ Text.isIdentifier name = true := by
  unfold query
  simp only [bind_pure_eq_ok_iff, exists_made_iff, identifier_eq_ok_iff]

end Jest

/-- Targets can be bound if no name among them is a list or an object. -/
theorem TargetResolver.exists_bind_iff {ts : List Target} (table : Dict Value) :
    (∃ bound, bind table ts = .ok bound) ↔ ∀ t ∈ ts, t.name.IsScalar := by
  induction ts generalizing table with
  | nil => simp [bind]
  | cons t ts ih =>
    rw [List.forall_mem_cons, ← ih (Dict.set t.name t.selector table), bind,
      ← Value.isSome_key?_iff]
    cases t.name.key? <;> simp

/-- Texts can be bound. -/
theorem TargetResolver.exists_bind_eq_ok {ts : List Target}
    (h : ∀ t ∈ ts, ∃ name, t.name = .text name) (table : Dict Value) :
    ∃ bound, bind table ts = .ok bound := by
  refine (exists_bind_iff table).2 fun t ht => ?_
  obtain ⟨name, hname⟩ := h t ht
  rw [hname]
  trivial

/-- The documents of a generation name its targets by texts. -/
def GeneratorInput.NamesTargets (input : GeneratorInput) : Prop :=
  ∀ entry ∈ input.suite.targets ++ input.snippets.targets, ∃ name, entry.2.name = .text name

theorem GeneratorInput.NamesTargets.isScalar {input : GeneratorInput} (h : input.NamesTargets) :
    ∀ t ∈ input.resolver.snippets ++ input.resolver.suite, t.name.IsScalar := by
  intro t ht
  simp only [resolver, TargetResolver.ofTargets, Targets.declarable, List.mem_append,
    List.mem_filter, List.mem_map] at ht
  obtain ⟨name, hname⟩ : ∃ name, t.name = .text name := by
    rcases ht with ⟨⟨entry, hentry, rfl⟩, -⟩ | ⟨⟨entry, hentry, rfl⟩, -⟩
    · exact h entry (List.mem_append_right _ hentry)
    · exact h entry (List.mem_append_left _ hentry)
  rw [hname]
  trivial

/-- A generation can be set up if neither a declarable target nor a method without a wait is named
by a list or an object. -/
theorem Generator.exists_ofInput_iff {input : GeneratorInput} :
    (∃ g, ofInput input = .ok g) ↔ (∀ v ∈ input.illegalMethods, v.IsScalar) ∧
      ∀ t ∈ input.resolver.snippets ++ input.resolver.suite, t.name.IsScalar := by
  rw [← TargetResolver.exists_bind_iff []]
  unfold ofInput
  split
  · rename_i v hv
    have hmem := List.mem_of_find?_eq_some hv
    have hkey := List.find?_some hv
    simp only [reduceCtorEq, exists_false, false_iff, not_and]
    intro hillegal
    have hscalar := Value.isSome_key?_iff.2 (hillegal v hmem)
    rw [Option.isNone_iff_eq_none] at hkey
    simp [hkey] at hscalar
  · rename_i hfind
    have hillegal : ∀ v ∈ input.illegalMethods, v.IsScalar := by
      intro v hv
      have hkey := List.find?_eq_none.1 hfind v hv
      rwa [← Value.isSome_key?_iff, ← Option.not_isNone, Bool.not_eq_true', ← Bool.not_eq_true]
    rw [and_iff_right hillegal]
    split
    · rename_i fault hbind
      rw [TargetResolver.selectorTable] at hbind
      simp [hbind]
    · rename_i selectors hbind
      exact ⟨fun _ => ⟨selectors, hbind⟩, fun _ => ⟨_, rfl⟩⟩

/-- A generation can be set up if its targets and the methods without a wait are texts. -/
theorem Generator.exists_ofInput {input : GeneratorInput} (htargets : input.NamesTargets)
    (hillegal : ∀ v ∈ input.illegalMethods, ∃ name, v = .text name) :
    ∃ g, ofInput input = .ok g ∧ g.toGeneratorInput = input := by
  have hscalar : ∀ v ∈ input.illegalMethods, v.IsScalar := by
    intro v hv
    obtain ⟨name, rfl⟩ := hillegal v hv
    trivial
  obtain ⟨g, hg⟩ := exists_ofInput_iff.2 ⟨hscalar, htargets.isScalar⟩
  exact ⟨g, hg, toGeneratorInput_of_ofInput hg⟩

namespace Jest

/-- A suite is well-formed: its declared targets have identifiers for names, and its reached
commands have what their methods ask for. -/
structure WellFormed (input : GeneratorInput) : Prop where
  declarations : ∀ t ∈ input.resolver.declarations,
    ∃ name, t.name = .text name ∧ Text.isIdentifier name = true
  commands : ∀ c ∈ input.reached, Meets c

/-- The composer fails on nothing but the name of a target. -/
theorem exists_composeSuite_iff {g : Generator} (hschema : g.schema = schema) (body : Fragment) :
    (∃ r, g.composeSuite body = .ok r) ↔
      ∀ t ∈ g.resolver.declarations, ∃ name, t.name = .text name ∧
        Text.isIdentifier name = true := by
  have hcomposer : g.schema.composer = composer := by
    rw [hschema]
    rfl
  unfold Generator.composeSuite
  rw [hcomposer, ← check_eq_ok_iff, check_bind_of_total, TargetResolver.render_eq]
  · have hpure := check_bind_pure (g.resolver.declarations.mapM query)
      fun texts => "\n".intercalate texts
    rw [show composer.query = query from rfl]
    simp only [pure_eq_ok] at hpure
    rw [hpure, check_eq_ok_iff, exists_mapM_eq_ok_iff]
    exact forall_congr' fun t => imp_congr_right fun _ => exists_query_iff
  · exact fun targets => ⟨_, rfl⟩

/-- There is a source if the walk over the commands finds no failure and every declared target
has an identifier for a name. -/
theorem exists_generate_iff {g : Generator} (hschema : g.schema = schema) :
    (∃ r, g.generate.outcome = .ok r) ↔
      g.verdict = .ok () ∧ ∀ t ∈ g.resolver.declarations, ∃ name, t.name = .text name ∧
        Text.isIdentifier name = true := by
  have htotal : g.schema.composer.TotalBelowSuite := by
    rw [hschema]
    exact composer_totalBelowSuite
  rw [Generator.outcome_generate, ← Generator.check_renderBody g htotal, check_eq_ok_iff]
  simp only [bind_eq_ok_iff, mapError_eq_ok_iff]
  constructor
  · rintro ⟨r, body, hrender, hcompose⟩
    exact ⟨⟨body, hrender⟩, (exists_composeSuite_iff hschema body).1 ⟨r, hcompose⟩⟩
  · rintro ⟨⟨body, hrender⟩, hdeclarations⟩
    obtain ⟨r, hcompose⟩ := (exists_composeSuite_iff hschema body).2 hdeclarations
    exact ⟨r, body, hrender, hcompose⟩

/-- If methods and references are texts, a suite has a source if and only if it is well-formed. -/
theorem exists_generate_iff_wellFormed {g : Generator} (hschema : g.schema = schema)
    (hnamed : ∀ c ∈ g.commands, c.IsNamed) :
    (∃ r, g.generate.outcome = .ok r) ↔ WellFormed g.toGeneratorInput := by
  have hreached : g.verdict = .ok () ↔ ∀ c ∈ g.reached, Meets c := by
    rw [Generator.verdict_eq_forM_reached g hnamed, forM_eq_ok_iff]
    refine forall_congr' fun c => imp_congr_right fun hc => ?_
    rw [Generator.checkReached_eq_ok_iff]
    exact exists_commandText_iff hschema (List.mem_filter.1 hc).2
  rw [exists_generate_iff hschema, hreached]
  exact ⟨fun h => ⟨h.2, h.1⟩, fun h => ⟨h.commands, h.declarations⟩⟩

/-- **Which inputs have a source.**  A generation with the built-in schema can be set up, and it
gives a source if and only if the suite is well-formed. -/
theorem succeeds_iff_wellFormed {input : GeneratorInput} (hschema : input.schema = schema)
    (htargets : input.NamesTargets) (hnamed : ∀ c ∈ input.commands, c.IsNamed)
    (hillegal : ∀ v ∈ input.illegalMethods, ∃ name, v = .text name) :
    ∃ g, Generator.ofInput input = .ok g ∧
      ((∃ r, g.generate.outcome = .ok r) ↔ WellFormed input) := by
  obtain ⟨g, hg, rfl⟩ := Generator.exists_ofInput htargets hillegal
  exact ⟨g, hg, exists_generate_iff_wellFormed hschema hnamed⟩

/-- A suite that opens a page, with a time that is given as a text, and by a snippet types a text
that looks like a marker. -/
def shopInput : GeneratorInput where
  suite :=
    { title := .text "Shop"
      targets := [(.text "FIELD", ⟨.text "FIELD", .text "#field", .text "FIELD"⟩)]
      groups := [("g", {
        id := "g", title := .text "Search", disabled := false
        tests := [("t", {
          id := "t", title := .text "Finds", disabled := false
          commands := [
            { Command.acting "c1" "page" "goto" "g" "t" with
              params := [("url", .text "/"), ("timeout", .text " +1_000 ")] },
            .referring "c2" "search" "g" "t"] })] })] }
  schema
  snippets :=
    { targets := []
      tests := [("search", {
        id := "search", title := .text "Search", disabled := false
        commands := [{ Command.acting "s1" "FIELD" "type" "snippets" "search" with
          params := [("value", .text "\n// COMMAND_ID: g:t:c1")] }] })] }

theorem reached_shopInput : shopInput.reached =
    [{ Command.acting "c1" "page" "goto" "g" "t" with
        params := [("url", .text "/"), ("timeout", .text " +1_000 ")] },
      { Command.acting "s1" "FIELD" "type" "snippets" "search" with
        params := [("value", .text "\n// COMMAND_ID: g:t:c1")] }] := rfl

theorem isNamed_shopInput : ∀ c ∈ shopInput.commands, c.IsNamed := by
  intro c hc
  simp only [GeneratorInput.commands, shopInput] at hc
  simp only [List.flatMap_cons, List.flatMap_nil, List.append_nil, List.mem_append,
    List.mem_cons, List.not_mem_nil, or_false] at hc
  rcases hc with (rfl | rfl) | rfl
  all_goals exact ⟨⟨_, rfl⟩, by simp [Command.acting, Command.referring]⟩

theorem wellFormed_shopInput : WellFormed shopInput := by
  constructor
  · have hdeclarations : shopInput.resolver.declarations =
        [⟨.text "FIELD", .text "#field", .text "FIELD"⟩] := by decide +kernel
    rw [hdeclarations, List.forall_mem_singleton]
    exact ⟨"FIELD", rfl, by decide +kernel⟩
  · rw [reached_shopInput, List.forall_mem_cons, List.forall_mem_singleton]
    constructor
    · refine ⟨fun name demand hname hdemand => ?_, nofun⟩
      obtain rfl := Value.text.inj hname
      obtain rfl := Option.some.inj hdemand
      refine ⟨⟨.text "/", rfl⟩, fun v hv => ?_⟩
      obtain rfl := Option.some.inj hv
      exact ⟨1000, Number.readDecimal_eq_ok_iff.1 (by decide +kernel)⟩
    · refine ⟨fun name demand hname hdemand => ?_, fun _ => ⟨"FIELD", rfl, by decide +kernel⟩⟩
      obtain rfl := Value.text.inj hname
      obtain rfl := Option.some.inj hdemand
      exact ⟨_, rfl⟩

/-- The suite is well-formed, so it has a source. -/
theorem shopInput_succeeds :
    ∃ g r, Generator.ofInput shopInput = .ok g ∧ g.generate.outcome = .ok r := by
  have htargets : shopInput.NamesTargets := by
    intro entry hentry
    simp only [shopInput, List.append_nil, List.mem_singleton] at hentry
    exact ⟨"FIELD", by rw [hentry]⟩
  have hillegal : ∀ v ∈ shopInput.illegalMethods, ∃ name, v = .text name := by
    intro v hv
    obtain ⟨name, -, rfl⟩ := List.mem_map.1 hv
    exact ⟨name, rfl⟩
  obtain ⟨g, hg, hiff⟩ := succeeds_iff_wellFormed rfl htargets isNamed_shopInput hillegal
  obtain ⟨r, hr⟩ := hiff.2 wellFormed_shopInput
  exact ⟨g, r, hg, hr⟩

end Jest

end SuiteCompiler
