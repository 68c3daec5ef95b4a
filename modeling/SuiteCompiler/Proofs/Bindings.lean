/-
  SuiteCompiler/Proofs/Bindings.lean
  ==================================
  The table of selectors against the declarations.

  A name can be given by several targets, of the suite and of the snippets, under ids
  of their own.  Two readings of them are made.  The table goes by names alone: the
  last target of a name decides, one of the suite before any of the snippets
  (`get?_selectorTable`).  The declarations leave out what the suite shadows, by name or
  by id.  So they agree on every name but one whose deciding target comes from the
  snippets and has the id of a target of the suite (`LosesBinding`): the table has such
  a name, and the target that decides it is not declared.
-/
import SuiteCompiler.Proofs.WellFormed

namespace SuiteCompiler

/-- The last of some targets that has a name. -/
def lastNamed (ts : List Target) (name : String) : Option Target :=
  ts.findRev? fun t => t.name = .text name

theorem lastNamed_cons (t : Target) (ts : List Target) (name : String) :
    lastNamed (t :: ts) name =
      (lastNamed ts name).or (if t.name = .text name then some t else none) := by
  simp [lastNamed, List.findRev?_eq_find?_reverse, List.find?_append, List.find?_singleton]

theorem lastNamed_append (ts ts' : List Target) (name : String) :
    lastNamed (ts ++ ts') name = (lastNamed ts' name).or (lastNamed ts name) := by
  simp [lastNamed, List.findRev?_eq_find?_reverse, List.find?_append]

theorem lastNamed_eq_none_iff {ts : List Target} {name : String} :
    lastNamed ts name = none ↔ ∀ t ∈ ts, t.name ≠ .text name := by
  simp [lastNamed, List.findRev?_eq_find?_reverse, List.find?_eq_none]

theorem mem_of_lastNamed {ts : List Target} {name : String} {t : Target}
    (h : lastNamed ts name = some t) : t ∈ ts ∧ t.name = .text name := by
  rw [lastNamed, List.findRev?_eq_find?_reverse] at h
  exact ⟨List.mem_reverse.1 (List.mem_of_find?_eq_some h), by simpa using List.find?_some h⟩

/-- The last target of a name stays the last one if it is kept. -/
theorem lastNamed_filter {ts : List Target} {name : String} {t : Target} {keep : Target → Bool}
    (h : lastNamed ts name = some t) (hkeep : keep t = true) :
    lastNamed (ts.filter keep) name = some t := by
  induction ts with
  | nil => cases h
  | cons t' ts ih =>
    rw [lastNamed_cons] at h
    -- a later target of the name decides, whether this one is kept or not
    cases hlast : lastNamed ts name with
    | some last =>
      rw [hlast, Option.some_or] at h
      have hts := ih (hlast.trans h)
      cases hk : keep t' with
      | false => rwa [List.filter_cons_of_neg (by simp [hk])]
      | true => rw [List.filter_cons_of_pos hk, lastNamed_cons, hts, Option.some_or]
    | none =>
      rw [hlast, Option.none_or] at h
      obtain ⟨hname, rfl⟩ : t'.name = .text name ∧ t' = t := by simpa using h
      have hnone : lastNamed (ts.filter keep) name = none := by
        rw [lastNamed_eq_none_iff] at hlast ⊢
        exact fun d hd => hlast d (List.mem_filter.1 hd).1
      rw [List.filter_cons_of_pos hkeep, lastNamed_cons, hnone, if_pos hname]
      rfl

namespace TargetResolver

/-! ### The table -/

/-- Binding targets one after another leaves every name with the selector of its last target. -/
theorem get?_bind {ts : List Target} (hnames : ∀ t ∈ ts, ∃ name, t.name = .text name)
    {table bound : Dict Value} (h : bind table ts = .ok bound) (name : String) :
    bound.get? (.text name) =
      ((lastNamed ts name).map Target.selector).or (table.get? (.text name)) := by
  -- the table holds what the targets before have bound
  induction ts generalizing table with
  | nil =>
    obtain rfl : table = bound := Except.ok.inj h
    rfl
  | cons t ts ih =>
    obtain ⟨own, hown⟩ := hnames t List.mem_cons_self
    have hrest : bind (Dict.set t.name t.selector table) ts = .ok bound := by
      simpa [bind, hown, Value.key?] using h
    rw [ih (fun t' ht' => hnames t' (List.mem_cons_of_mem t ht')) hrest, lastNamed_cons, hown]
    by_cases hsame : own = name
    · have hset : Dict.get? (.text name) (Dict.set (.text own) t.selector table) =
          some t.selector :=
        Dict.get?_set_of_sameKey (by simp [Value.sameKey_text, hsame]) _ _
      rw [hset, if_pos (by rw [hsame])]
      cases lastNamed ts name <;> rfl
    · have hset : Dict.get? (.text name) (Dict.set (.text own) t.selector table) =
          Dict.get? (.text name) table :=
        Dict.get?_set_of_not_sameKey (by simp [Value.sameKey_text, hsame]) _ _
      rw [hset, if_neg (by simpa using hsame), Option.or_none]

/-- The table has the selector of the last target of a name, where those of the suite come after
those of the snippets. -/
theorem get?_selectorTable {r : TargetResolver}
    (hnames : ∀ t ∈ r.snippets ++ r.suite, ∃ name, t.name = .text name) {table : Dict Value}
    (h : r.selectorTable = .ok table) (name : String) :
    table.get? (.text name) = (lastNamed (r.snippets ++ r.suite) name).map Target.selector := by
  rw [get?_bind hnames h name]
  exact Option.or_none

/-! ### The declarations -/

/-- A name whose deciding target is not declared: the suite has no target of that name, and the
last one of the snippets has the id of a target of the suite. -/
def LosesBinding (r : TargetResolver) (name : String) : Prop :=
  lastNamed r.suite name = none ∧
    ∃ t ∈ lastNamed r.snippets name, ∃ s ∈ r.suite, s.id.sameKey t.id = true

instance (r : TargetResolver) (name : String) : Decidable (r.LosesBinding name) :=
  inferInstanceAs (Decidable (_ ∧ _))

theorem LosesBinding.exists_last {r : TargetResolver} {name : String} (h : r.LosesBinding name) :
    ∃ t, lastNamed r.snippets name = some t ∧ lastNamed (r.snippets ++ r.suite) name = some t := by
  obtain ⟨hsuite, t, hlast, -⟩ := h
  exact ⟨t, hlast, by rw [lastNamed_append, hsuite, Option.none_or, hlast]⟩

/-- A name that does not lose its binding is declared last by the target that decides it. -/
theorem lastNamed_declarations {r : TargetResolver}
    (hnames : ∀ t ∈ r.snippets ++ r.suite, ∃ name, t.name = .text name) {name : String}
    (h : ¬ r.LosesBinding name) {t : Target}
    (hlast : lastNamed (r.snippets ++ r.suite) name = some t) :
    lastNamed r.declarations name = some t := by
  rw [declarations, lastNamed_append]
  rw [lastNamed_append] at hlast
  cases hsuite : lastNamed r.suite name with
  | some s => rwa [hsuite] at hlast
  | none =>
    rw [hsuite, Option.none_or] at hlast
    rw [Option.none_or]
    -- the last target of the snippets is kept: it shares no id by `h`, and no name by `hsuite`
    refine lastNamed_filter hlast ?_
    rw [Bool.not_eq_true', isShadowed, List.any_eq_false]
    intro s hs
    have hid : s.id.sameKey t.id = false := by
      rw [← Bool.not_eq_true]
      exact fun hid => h ⟨hsuite, t, hlast, s, hs, hid⟩
    have hname : s.name.sameKey t.name = false := by
      obtain ⟨own, hown⟩ := hnames s (List.mem_append_right _ hs)
      have hne := lastNamed_eq_none_iff.1 hsuite s hs
      rw [hown] at hne ⊢
      rw [(mem_of_lastNamed hlast).2, Value.sameKey_text]
      exact decide_eq_false fun heq => hne (by rw [heq])
    simp [hid, hname]

/-- The target that decides a name that loses its binding is not declared. -/
theorem not_mem_declarations {r : TargetResolver} {name : String} (h : r.LosesBinding name)
    {t : Target} (hlast : lastNamed (r.snippets ++ r.suite) name = some t) :
    t ∉ r.declarations := by
  obtain ⟨hsuite, t', ht', s, hs, hid⟩ := h
  have ht' : lastNamed r.snippets name = some t' := ht'
  rw [lastNamed_append, hsuite, Option.none_or, ht'] at hlast
  obtain rfl := Option.some.inj hlast
  intro hmem
  rcases List.mem_append.1 hmem with hmem | hmem
  · have hshadowed : r.isShadowed t' = true :=
      List.any_eq_true.2 ⟨s, hs, by rw [hid, Bool.true_or]⟩
    simp [hshadowed] at hmem
  · exact lastNamed_eq_none_iff.1 hsuite t' hmem (mem_of_lastNamed ht').2

/-- **The table and the declarations.**  Every name in the table that does not lose its binding is
declared, last with the selector that the table has; the target that decides a name that loses
its binding is not declared; and every declared name is in the table. -/
theorem table_agrees_with_declarations (suite snippets : Targets)
    (hnames : ∀ t ∈ snippets.declarable ++ suite.declarable, ∃ name, t.name = .text name) :
    ∃ table, (ofTargets suite snippets).selectorTable = .ok table ∧
      (∀ name selector, table.get? (.text name) = some selector →
        ¬ (ofTargets suite snippets).LosesBinding name →
        ∃ t, lastNamed (ofTargets suite snippets).declarations name = some t ∧
          t.selector = selector) ∧
      (∀ name, (ofTargets suite snippets).LosesBinding name →
        ∃ t, lastNamed snippets.declarable name = some t ∧
          table.get? (.text name) = some t.selector ∧
          t ∉ (ofTargets suite snippets).declarations) ∧
      ∀ t ∈ (ofTargets suite snippets).declarations, ∃ selector,
        table.get? t.name = some selector := by
  have hnames' : ∀ t ∈ (ofTargets suite snippets).snippets ++ (ofTargets suite snippets).suite,
      ∃ name, t.name = .text name := hnames
  obtain ⟨table, htable⟩ := exists_bind_eq_ok hnames []
  have hget := get?_selectorTable hnames' htable
  refine ⟨table, htable, ?_, ?_, ?_⟩
  · intro name selector hselector hbinding
    rw [hget, Option.map_eq_some_iff] at hselector
    obtain ⟨t, hlast, rfl⟩ := hselector
    exact ⟨t, lastNamed_declarations hnames' hbinding hlast, rfl⟩
  · intro name hbinding
    obtain ⟨t, hlast, hall⟩ := hbinding.exists_last
    exact ⟨t, hlast, by rw [hget, hall, Option.map_some], not_mem_declarations hbinding hall⟩
  · intro t ht
    have hmem : t ∈ (ofTargets suite snippets).snippets ++ (ofTargets suite snippets).suite := by
      rcases List.mem_append.1 ht with ht | ht
      · exact List.mem_append_left _ (List.mem_filter.1 ht).1
      · exact List.mem_append_right _ ht
    obtain ⟨name, hname⟩ := hnames' t hmem
    rw [hname, hget]
    cases hlast : lastNamed ((ofTargets suite snippets).snippets ++
        (ofTargets suite snippets).suite) name with
    | none => exact absurd hname (lastNamed_eq_none_iff.1 hlast t hmem)
    | some last => exact ⟨last.selector, rfl⟩

/-- Targets of a suite: one, under the id `1`. -/
def loginTargets : Value :=
  .object [("1", .object [("target", .text "LOGIN"), ("selector", .text "#login")])]

/-- Targets of snippets: another name under the same id, and the same name under another one. -/
def snippetTargets : Value :=
  .object [("1", .object [("target", .text "SIGNUP"), ("selector", .text "#signup")]),
    ("2", .object [("target", .text "LOGIN"), ("selector", .text ".login")])]

theorem bound_name_is_not_declared :
    ∃ suite snippets table, Targets.ofValue loginTargets = .ok suite ∧
      Targets.ofValue snippetTargets = .ok snippets ∧
      (ofTargets suite snippets).selectorTable = .ok table ∧
      table.get? (.text "SIGNUP") = some (.text "#signup") ∧
      ∀ t ∈ (ofTargets suite snippets).declarations, t.name ≠ .text "SIGNUP" :=
  ⟨_, _, _, rfl, rfl, rfl, rfl, by decide⟩

theorem bindings_of_login :
    ∃ suite snippets table, Targets.ofValue loginTargets = .ok suite ∧
      Targets.ofValue snippetTargets = .ok snippets ∧
      (ofTargets suite snippets).selectorTable = .ok table ∧
      (∃ t, lastNamed (ofTargets suite snippets).declarations "LOGIN" = some t ∧
        t.selector = .text "#login") ∧
      ∃ t, lastNamed snippets.declarable "SIGNUP" = some t ∧
        t ∉ (ofTargets suite snippets).declarations := by
  let suite : Targets := [(.text "1", ⟨.text "LOGIN", .text "#login", .text "1"⟩)]
  let snippets : Targets :=
    [(.text "1", ⟨.text "SIGNUP", .text "#signup", .text "1"⟩),
      (.text "2", ⟨.text "LOGIN", .text ".login", .text "2"⟩)]
  have hnames : ∀ t ∈ snippets.declarable ++ suite.declarable, ∃ name, t.name = .text name := by
    change ∀ t ∈ ([_, _, _] : List Target), ∃ name, t.name = .text name
    simp only [List.forall_mem_cons]
    exact ⟨⟨"SIGNUP", rfl⟩, ⟨"LOGIN", rfl⟩, ⟨"LOGIN", rfl⟩, List.forall_mem_nil _⟩
  obtain ⟨table, htable, hagrees, hloses, -⟩ :=
    table_agrees_with_declarations suite snippets hnames
  have hlogin : table.get? (.text "LOGIN") = some (.text "#login") := by
    obtain rfl := Except.ok.inj htable
    rfl
  refine ⟨suite, snippets, table, rfl, rfl, htable, hagrees "LOGIN" _ hlogin (by decide), ?_⟩
  obtain ⟨t, hlast, -, hmem⟩ := hloses "SIGNUP" (by decide)
  exact ⟨t, hlast, hmem⟩

end TargetResolver

end SuiteCompiler
