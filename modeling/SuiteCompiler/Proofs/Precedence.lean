/-
  SuiteCompiler/Proofs/Precedence.lean
  ====================================
  Which selector a name stands for, from the documents to the renderers.

  A name stands for the last target of the suite that has it, or else for the last one
  of the snippets (`TargetResolver.bound`).  The table of selectors says the same and
  lists every name once.  A renderer is given the selector that its target stands for
  (`renderPlain?_supplied`), so a generation whose renderers look it up for themselves
  is the same generation (`generate_supplied`).
-/
import SuiteCompiler.Proofs.Bindings
import SuiteCompiler.Proofs.Dictionaries

namespace SuiteCompiler

open Outcome

/-! ### The table and the declarations -/

namespace TargetResolver

/-- The target that a name stands for. -/
def bound (r : TargetResolver) (name : String) : Option Target :=
  (lastNamed r.suite name).or (lastNamed r.snippets name)

/-- The selector that a command is given for its target, null if the target has no name of any. -/
def boundSelector (r : TargetResolver) : Value → Value
  | .text name => ((r.bound name).map Target.selector).getD .null
  | _ => .null

/-- All targets that can be declared are named by texts. -/
def NamesTexts (r : TargetResolver) : Prop :=
  ∀ t ∈ r.snippets ++ r.suite, ∃ name, t.name = .text name

theorem bind_eq_setAll {ts : List Target} (h : ∀ t ∈ ts, t.name.IsScalar) (table : Dict Value) :
    bind table ts = .ok (Dict.setAll (ts.map fun t => (t.name, t.selector)) table) := by
  induction ts generalizing table with
  | nil => rfl
  | cons t ts ih =>
    rw [List.forall_mem_cons, ← Value.isSome_key?_iff, ← Option.not_isNone,
      Bool.not_eq_true'] at h
    rw [bind, h.1, if_neg Bool.false_ne_true, ih h.2]
    rfl

variable {r : TargetResolver} {table : Dict Value}

theorem get?_selectorTable_eq_bound (hnames : r.NamesTexts) (h : r.selectorTable = .ok table)
    (name : String) : table.get? (.text name) = (r.bound name).map Target.selector := by
  rw [get?_selectorTable hnames h, lastNamed_append]
  rfl

theorem NamesTexts.isScalar (h : r.NamesTexts) : ∀ t ∈ r.snippets ++ r.suite, t.name.IsScalar := by
  intro t ht
  obtain ⟨name, hname⟩ := h t ht
  rw [hname]
  trivial

theorem selectorTable_eq (hnames : r.NamesTexts) (h : r.selectorTable = .ok table) :
    table = Dict.setAll ((r.snippets ++ r.suite).map fun t => (t.name, t.selector)) [] := by
  rw [selectorTable, bind_eq_setAll hnames.isScalar] at h
  exact (Except.ok.inj h).symm

/-- The names stand in the order in which they first come, those of the snippets before those of
the suite. -/
theorem keys_selectorTable (hnames : r.NamesTexts) (h : r.selectorTable = .ok table) :
    table.map (·.1) = ((r.snippets ++ r.suite).map Target.name).eraseDups := by
  rw [selectorTable_eq hnames h, Dict.keys_setAll, List.map_map]
  · rfl
  · intro entry hentry
    obtain ⟨t, ht, rfl⟩ := List.mem_map.1 hentry
    exact hnames t ht

theorem exists_name_of_mem (hnames : r.NamesTexts) (h : r.selectorTable = .ok table)
    {entry : Value × Value} (hentry : entry ∈ table) : ∃ name, entry.1 = .text name := by
  have hkey : entry.1 ∈ table.map (·.1) := List.mem_map_of_mem hentry
  rw [keys_selectorTable hnames h, List.mem_eraseDups] at hkey
  obtain ⟨t, ht, hname⟩ := List.mem_map.1 hkey
  rw [← hname]
  exact hnames t ht

theorem get?_selectorTable_of_not_text (hnames : r.NamesTexts) (h : r.selectorTable = .ok table)
    {v : Value} (hv : ∀ name, v ≠ .text name) : table.get? v = none := by
  by_contra hsome
  obtain ⟨selector, hselector⟩ := Option.ne_none_iff_exists'.1 hsome
  obtain ⟨key, hmem, hsame⟩ := Dict.mem_of_get? hselector
  obtain ⟨name, hname⟩ := exists_name_of_mem hnames h hmem
  obtain ⟨k, hkey, hvkey⟩ := Value.sameKey_iff.1 hsame
  obtain rfl : key = .text name := hname
  obtain rfl : Key.text name = k := Option.some.inj hkey
  -- only a text has the key of a text
  cases v with
  | text s => exact hv s rfl
  | float x =>
    simp only [Value.key?] at hvkey
    split at hvkey <;> cases hvkey
  | _ => cases hvkey

theorem nodup_keys_selectorTable (hnames : r.NamesTexts) (h : r.selectorTable = .ok table) :
    (table.map (·.1)).Nodup := by
  apply Dict.nodup_keys
  · rw [selectorTable_eq hnames h]
    exact Dict.distinct_setAll .nil
  · intro entry hentry
    obtain ⟨name, hname⟩ := exists_name_of_mem hnames h hentry
    rw [hname]
    trivial

/-- The targets of the snippets that are declared differ from all targets of the suite by id and
by name. -/
theorem declarations_eq (hnames : r.NamesTexts) :
    r.declarations =
      (r.snippets.filter fun t => ∀ s ∈ r.suite, s.id.sameKey t.id = false ∧ s.name ≠ t.name) ++
        r.suite := by
  unfold declarations
  congr 1
  refine List.filter_congr fun t ht => ?_
  rw [Bool.eq_iff_iff, Bool.not_eq_true', decide_eq_true_iff, isShadowed, List.any_eq_false]
  refine forall_congr' fun s => imp_congr_right fun hs => ?_
  obtain ⟨name, hname⟩ := hnames t (List.mem_append_left _ ht)
  obtain ⟨name', hname'⟩ := hnames s (List.mem_append_right _ hs)
  rw [hname, hname', Value.sameKey_text]
  simp

end TargetResolver

/-! ### The renderers -/

/-- The renderer that takes the selector of a target from a function of the target, and not from
what it is given. -/
def Renderer.supplied (renderer : Renderer) (select : Value → Value) : Renderer :=
  fun ctx => renderer { ctx with selector := select ctx.target }

/-- The schema whose renderers take the selectors of targets from a function. -/
def Schema.supplied (s : Schema) (select : Value → Value) : Schema :=
  { s with
    page := s.page.map fun entry => (entry.1, Renderer.supplied entry.2 select)
    element := s.element.map fun entry => (entry.1, Renderer.supplied entry.2 select) }

theorem lookup_map_snd {α β : Type} (f : α → β) (key : String) (entries : List (String × α)) :
    (entries.map fun entry => (entry.1, f entry.2)).lookup key = (entries.lookup key).map f := by
  induction entries with
  | nil => rfl
  | cons entry entries ih =>
    rw [List.map_cons, List.lookup_cons, List.lookup_cons]
    cases key == entry.1 with
    | true => rfl
    | false => exact ih

theorem Schema.find?_supplied (s : Schema) (select : Value → Value) (kind : TargetKind)
    (method : Value) :
    (s.supplied select).find? kind method =
      (s.find? kind method).map (Option.map fun entry => (entry.1, entry.2.supplied select)) := by
  have hrenderer : ∀ name, (s.supplied select).renderer? kind name =
      (s.renderer? kind name).map (Renderer.supplied · select) := by
    intro name
    cases kind with
    | page => exact lookup_map_snd (Renderer.supplied · select) name s.page
    | element => exact lookup_map_snd (Renderer.supplied · select) name s.element
  cases method with
  | text name =>
    simp only [find?, hrenderer, Option.map_map, Except.map]
    rfl
  | _ => rfl

namespace Generator

variable {g : Generator}

/-- The generation whose renderers look for the selectors of their targets themselves. -/
def supplied (g : Generator) : Generator :=
  { g with schema := g.schema.supplied g.resolver.boundSelector }

theorem selector_eq (hnames : g.resolver.NamesTexts) {target : Value} (h : target.IsScalar) :
    g.selector target = .ok (g.resolver.boundSelector target) := by
  have hkey : target.key?.isNone = false := by
    rw [← Option.not_isSome, Value.isSome_key?_iff.2 h]
    rfl
  rw [selector, hkey, if_neg Bool.false_ne_true]
  by_cases htext : ∃ name, target = .text name
  · obtain ⟨name, rfl⟩ := htext
    rw [TargetResolver.get?_selectorTable_eq_bound hnames g.selectors_eq]
    rfl
  · have hnot : ∀ name, target ≠ .text name := fun name hname => htext ⟨name, hname⟩
    rw [TargetResolver.get?_selectorTable_of_not_text hnames g.selectors_eq hnot]
    cases target with
    | text name => exact absurd rfl (hnot name)
    | _ => rfl

theorem selector_of_not_isScalar {target : Value} (h : ¬ target.IsScalar) :
    g.selector target = .error (.unhashable target.kind) := by
  have hkey : target.key?.isNone = true := by
    rw [← Option.not_isSome, Bool.not_eq_true', ← Bool.not_eq_true, Value.isSome_key?_iff]
    exact h
  rw [selector, if_pos hkey]

/-- A reached command is rendered with the selector that its target stands for. -/
theorem renderPlain_of_reached (hnames : g.resolver.NamesTexts) {c : Command}
    (hc : c ∈ g.reached) (htarget : c.target.IsScalar) :
    ∃ method renderer, c.method = .text method ∧
      g.schema.renderer? c.kind method = some renderer ∧
      (g.renderPlain c).outcome =
        ((renderer (context c (g.resolver.boundSelector c.target) method)).map
          (g.instrument c method)).mapError fun fault => .command (.of c fault) := by
  have hserves : g.schema.serves c = true := (List.mem_filter.1 hc).2
  obtain ⟨method, renderer, hmethod, hrenderer⟩ := Schema.serves_iff.1 hserves
  refine ⟨method, renderer, hmethod, hrenderer, ?_⟩
  rw [outcome_renderPlain_of_serves g hserves, commandText_eq hmethod hrenderer,
    selector_eq hnames htarget]
  unfold finish
  rw [hmethod]
  rfl

theorem renderPlain?_supplied (hnames : g.resolver.NamesTexts) (c : Command) :
    g.supplied.renderPlain? c = g.renderPlain? c := by
  have hfind : g.supplied.schema.find? c.kind c.method = _ :=
    g.schema.find?_supplied g.resolver.boundSelector c.kind c.method
  have hselector : g.supplied.selector c.target = g.selector c.target := rfl
  unfold renderPlain?
  rw [hfind, hselector]
  cases g.schema.find? c.kind c.method with
  | error fault => rfl
  | ok found =>
    cases found with
    | none => rfl
    | some entry =>
      -- the selector that is looked up is the one that is supplied in its place
      by_cases htarget : c.target.IsScalar
      · rw [selector_eq hnames htarget]
        rfl
      · rw [selector_of_not_isScalar htarget]
        rfl

theorem renderPlain_supplied (hnames : g.resolver.NamesTexts) (c : Command) :
    g.supplied.renderPlain c = g.renderPlain c := by
  unfold renderPlain
  rw [renderPlain?_supplied hnames]

theorem renderSnippet_supplied (hnames : g.resolver.NamesTexts) (ref : Value)
    (cs : List Command) : g.supplied.renderSnippet ref cs = g.renderSnippet ref cs := by
  induction cs with
  | nil => rfl
  | cons c cs ih =>
    unfold renderSnippet
    rw [ih, renderPlain_supplied hnames]

theorem renderCommand_supplied (hnames : g.resolver.NamesTexts) (c : Command) :
    g.supplied.renderCommand c = g.renderCommand c := by
  unfold renderCommand renderReference
  simp only [renderSnippet_supplied hnames, renderPlain_supplied hnames]
  rfl

theorem renderTest_supplied (hnames : g.resolver.NamesTexts) (t : Test) :
    g.supplied.renderTest t = g.renderTest t := by
  unfold renderTest
  rw [funext (renderCommand_supplied hnames)]
  rfl

theorem renderGroup_supplied (hnames : g.resolver.NamesTexts) (group : Group) :
    g.supplied.renderGroup group = g.renderGroup group := by
  unfold renderGroup
  rw [funext (renderTest_supplied hnames)]
  rfl

/-- A generation is the same, its log included, if its renderers look up the selectors. -/
theorem generate_supplied (hnames : g.resolver.NamesTexts) :
    g.supplied.generate = g.generate := by
  unfold generate renderSuite
  rw [funext (renderGroup_supplied hnames)]
  rfl

/-- **Which selector a name stands for.**  The table has the selector of the last target of the
suite by a name, or else of the last one of the snippets, and nothing else; it has every name once,
in the order in which the names first come.  The declarations are the targets of the snippets that
share neither id nor name with one of the suite, and then those of the suite.  The renderer of a
reached command is given the selector that its target stands for, null if it stands for none, and a
generation whose renderers look for their selectors so themselves is the same. -/
theorem selectors_follow_precedence (suite snippets : Targets)
    (hnames : ∀ t ∈ snippets.declarable ++ suite.declarable, ∃ name, t.name = .text name) :
    ∃ table, (TargetResolver.ofTargets suite snippets).selectorTable = .ok table ∧
      (∀ name, table.get? (.text name) =
        ((lastNamed suite.declarable name).or (lastNamed snippets.declarable name)).map
          Target.selector) ∧
      table.map (·.1) = ((snippets.declarable ++ suite.declarable).map Target.name).eraseDups ∧
      (table.map (·.1)).Nodup ∧
      (TargetResolver.ofTargets suite snippets).declarations =
        (snippets.declarable.filter fun t =>
          ∀ s ∈ suite.declarable, s.id.sameKey t.id = false ∧ s.name ≠ t.name) ++
          suite.declarable ∧
      ∀ g : Generator, g.suite.targets = suite → g.snippets.targets = snippets →
        g.selectors = table ∧
        (∀ c ∈ g.reached, c.target.IsScalar → ∃ method renderer, c.method = .text method ∧
          g.schema.renderer? c.kind method = some renderer ∧
          (g.renderPlain c).outcome =
            ((renderer (context c (g.resolver.boundSelector c.target) method)).map
              (g.instrument c method)).mapError fun fault => .command (.of c fault)) ∧
        g.supplied.generate = g.generate := by
  have hresolver : (TargetResolver.ofTargets suite snippets).NamesTexts := hnames
  obtain ⟨table, htable⟩ := TargetResolver.exists_bind_eq_ok hnames []
  refine ⟨table, htable, ?_, ?_, ?_, ?_, ?_⟩
  · exact TargetResolver.get?_selectorTable_eq_bound hresolver htable
  · exact TargetResolver.keys_selectorTable hresolver htable
  · exact TargetResolver.nodup_keys_selectorTable hresolver htable
  · exact TargetResolver.declarations_eq hresolver
  · rintro g rfl rfl
    refine ⟨?_, ?_, generate_supplied hresolver⟩
    · exact Except.ok.inj (g.selectors_eq.symm.trans htable)
    · intro c hc htarget
      exact renderPlain_of_reached hresolver hc htarget

/-- Targets of a suite and of snippets that share an id and a name, under a renderer that writes
the selector it is given. -/
def overlappingInput : GeneratorInput where
  suite :=
    { title := .text "Shop"
      targets := [(.text "1", ⟨.text "BUY", .text "#old", .text "1"⟩),
        (.text "2", ⟨.text "PAY", .text "#pay", .text "2"⟩),
        (.text "3", ⟨.text "BUY", .text "#buy", .text "3"⟩)]
      groups := [("g", {
        id := "g", title := .text "Cart", disabled := false
        tests := [("t", {
          id := "t", title := .text "Pays", disabled := false
          commands := [.acting "c1" "BUY" "show" "g" "t", .acting "c2" "ASK" "show" "g" "t",
            .acting "c3" "LEAVE" "show" "g" "t"] })] })] }
  schema :=
    { composer := Jest.composer
      element := [("show", fun ctx => .ok ctx.selector.display)] }
  snippets :=
    { targets := [(.text "7", ⟨.text "PAY", .text ".pay", .text "7"⟩),
        (.text "1", ⟨.text "ASK", .text ".ask", .text "1"⟩),
        (.text "8", ⟨.text "HELP", .text ".help", .text "8"⟩),
        (.text "9", ⟨.text "LEAVE", .text "", .text "9"⟩)]
      tests := [] }

def overlapping : Generator :=
  { overlappingInput with
    selectors := [(.text "PAY", .text "#pay"), (.text "ASK", .text ".ask"),
      (.text "HELP", .text ".help"), (.text "BUY", .text "#buy")]
    selectors_eq := rfl }

/-- The last of two targets of the suite decides, a target that is not declared still has its
selector, and one that cannot be declared has none. -/
theorem selectors_of_overlapping :
    overlapping.selectors.map (·.1) = [.text "PAY", .text "ASK", .text "HELP", .text "BUY"] ∧
      overlapping.resolver.declarations.map Target.name =
        [.text "HELP", .text "BUY", .text "PAY", .text "BUY"] ∧
      overlapping.reached.map (fun c => (overlapping.renderPlain c).outcome) =
        [.ok ⟨"#buy", []⟩, .ok ⟨".ask", []⟩, .ok ⟨"None", []⟩] := by
  have hnames : ∀ t ∈ overlappingInput.snippets.targets.declarable ++
      overlappingInput.suite.targets.declarable, ∃ name, t.name = .text name := by
    change ∀ t ∈ ([_, _, _, _, _, _] : List Target), ∃ name, t.name = .text name
    simp only [List.forall_mem_cons]
    exact ⟨⟨"PAY", rfl⟩, ⟨"ASK", rfl⟩, ⟨"HELP", rfl⟩, ⟨"BUY", rfl⟩, ⟨"PAY", rfl⟩, ⟨"BUY", rfl⟩,
      List.forall_mem_nil _⟩
  obtain ⟨table, -, -, hkeys, -, hdeclarations, hgenerator⟩ :=
    selectors_follow_precedence _ _ hnames
  obtain ⟨rfl, hreached, -⟩ := hgenerator overlapping rfl rfl
  refine ⟨hkeys.trans (by decide), ?_, ?_⟩
  · exact (congrArg (List.map Target.name) hdeclarations).trans (by decide)
  · have hrendered : ∀ c ∈ overlapping.reached, (overlapping.renderPlain c).outcome =
        .ok ⟨(overlapping.resolver.boundSelector c.target).display, []⟩ := by
      intro c hc
      have hmem : c = .acting "c1" "BUY" "show" "g" "t" ∨ c = .acting "c2" "ASK" "show" "g" "t" ∨
          c = .acting "c3" "LEAVE" "show" "g" "t" := by
        change c ∈ ([_, _, _] : List Command) at hc
        simpa using hc
      have hshow : c.target.IsScalar ∧ c.method = .text "show" ∧ c.kind = .element := by
        rcases hmem with rfl | rfl | rfl <;> exact ⟨trivial, rfl, rfl⟩
      obtain ⟨htarget, hmethod, hkind⟩ := hshow
      obtain ⟨method, renderer, hmethod', hrenderer, hr⟩ := hreached c hc htarget
      obtain rfl := Value.text.inj (hmethod.symm.trans hmethod')
      rw [hkind] at hrenderer
      obtain rfl := Option.some.inj hrenderer
      exact hr
    rw [List.map_congr_left hrendered]
    decide

end Generator

end SuiteCompiler
