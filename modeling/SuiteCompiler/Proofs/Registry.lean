/-
  SuiteCompiler/Proofs/Registry.lean
  ==================================
  The schema as a registry, over any run of registrations.

  A run is a list of calls, of which some succeed and some fail.  What a schema answers
  after a run is told by the calls that succeeded, its log: of the calls for a method of
  a kind the last one decides.

  A call either fails and writes nothing, or inserts one renderer (`Registration.run_cases`).
  From this alone, a log that tells the schema before a call (`Schema.Reflects`) tells the
  one after it with the call added if it succeeded (`Reflects.run`), and so for a whole
  run (`Reflects.after`).
-/
import Mathlib.Data.String.Basic
import SuiteCompiler.Proofs.Grammar
import SuiteCompiler.Template.Schema

namespace SuiteCompiler

/-! ### Calls -/

/-- A registration that is asked for, directly or as a decorator; none stands for a thing that is
no renderer. -/
structure Registration where
  decorates : Bool
  kind : KindArgument
  method : Value
  renderer : Option Renderer
  replace : Bool

theorem Value.text?_eq_some_iff {v : Value} {s : String} : v.text? = some s ↔ v = .text s := by
  cases v <;> simp [text?]

theorem TargetKind.ofName?_eq_some_iff {s : String} {kind : TargetKind} :
    ofName? s = some kind ↔ s = kind.name := by
  constructor
  · intro h
    unfold ofName? at h
    have hname := List.find?_some h
    exact (of_decide_eq_true hname).symm
  · rintro rfl
    cases kind <;> rfl

theorem KindArgument.resolve_eq_ok_iff {argument : KindArgument} {kind : TargetKind} :
    argument.resolve = .ok kind ↔ argument = .kind kind ∨ argument = .value (.text kind.name) := by
  cases argument with
  | kind k => simp [resolve]
  | value v =>
    cases v with
    | text s =>
      cases h : TargetKind.ofName? s with
      | none =>
        have hs : ∀ kind : TargetKind, s ≠ kind.name := by
          intro kind hs
          simp [TargetKind.ofName?_eq_some_iff.2 hs] at h
        simp [resolve, Value.text?, h, hs]
      | some found =>
        rw [TargetKind.ofName?_eq_some_iff] at h
        subst h
        cases found <;> cases kind <;> decide
    | _ => simp [resolve, Value.text?]

namespace Registration

variable {r : Registration} {s s' : Schema} {kind kind' : TargetKind} {method : Value}

/-- The kind that a registration is for, told by itself or by its name. -/
def tells (r : Registration) (kind : TargetKind) : Prop :=
  r.kind = .kind kind ∨ r.kind = .value (.text kind.name)

/-- Whether a registration is for a method of a kind. -/
def names (r : Registration) (kind : TargetKind) (method : Value) : Prop :=
  r.tells kind ∧ r.method = method

instance (r : Registration) (kind : TargetKind) : Decidable (r.tells kind) :=
  inferInstanceAs (Decidable (_ ∨ _))

instance (r : Registration) (kind : TargetKind) (method : Value) :
    Decidable (r.names kind method) :=
  inferInstanceAs (Decidable (_ ∧ _))

theorem tells_unique (h : r.tells kind) (h' : r.tells kind') : kind = kind' := by
  have hr := KindArgument.resolve_eq_ok_iff.2 h
  have hr' := KindArgument.resolve_eq_ok_iff.2 h'
  exact Except.ok.inj (hr.symm.trans hr')

/-- What is done to a schema. -/
def change (r : Registration) : Schema.Change Unit :=
  if r.decorates then do
    let _ ← Schema.template r.kind r.method r.replace r.renderer
  else Schema.register r.kind r.method r.renderer r.replace

/-- How a registration ends, and the schema after it. -/
def run (r : Registration) (s : Schema) : Except SchemaFault Unit × Schema :=
  r.change.run.run s

/-- What a registration has to bring so that it makes a renderer the one of a method. -/
structure Installs (r : Registration) (s : Schema) (kind : TargetKind) (method : String)
    (renderer : Renderer) : Prop where
  names : r.names kind (.text method)
  identifier : Text.isIdentifier method = true
  renderer : r.renderer = some renderer
  replace : (s.renderer? kind method).isSome = true → r.replace = true

theorem run_eq (r : Registration) (s : Schema) :
    r.run s = (Schema.register r.kind r.method r.renderer r.replace).run.run s := by
  unfold run change
  split
  · simp [Schema.template]
  · rfl

/-- The checks come before the one thing that is written. -/
theorem run_cases (r : Registration) (s : Schema) :
    (∃ fault, r.run s = (.error fault, s)) ∨
      ∃ kind method renderer, r.Installs s kind method renderer ∧
        r.run s = (.ok (), s.insert kind method renderer) := by
  have hrun := run_eq r s
  unfold Schema.register at hrun
  cases hk : r.kind.resolve with
  | error fault =>
    left
    rw [hk] at hrun
    exact ⟨fault, hrun⟩
  | ok kind =>
    rw [hk] at hrun
    cases hm : r.method.text? with
    | none =>
      left
      rw [hm] at hrun
      exact ⟨_, hrun⟩
    | some method =>
      rw [hm] at hrun
      by_cases hi : Text.isIdentifier method = true
      · cases hr : r.renderer with
        | none =>
          left
          simp only [hr, hi] at hrun
          exact ⟨_, hrun⟩
        | some renderer =>
          simp only [hr, hi, if_true] at hrun
          by_cases hb : ((s.renderer? kind method).isSome && !r.replace) = true
          · left
            refine ⟨.alreadyRegistered kind method, hrun.trans ?_⟩
            change StateT.run (ExceptT.run (ite _ _ _)) s = _
            rw [if_pos hb]
            rfl
          · right
            refine ⟨kind, method, renderer, ?_, hrun.trans ?_⟩
            · constructor
              · exact ⟨KindArgument.resolve_eq_ok_iff.1 hk, Value.text?_eq_some_iff.1 hm⟩
              · exact hi
              · exact hr
              · intro hsome
                simpa [hsome] using hb
            · change StateT.run (ExceptT.run (ite _ _ _)) s = _
              rw [if_neg hb]
              rfl
      · left
        simp only [hi] at hrun
        exact ⟨_, hrun⟩

theorem Installs.run_eq {method : String} {renderer : Renderer}
    (h : r.Installs s kind method renderer) :
    r.run s = (.ok (), s.insert kind method renderer) := by
  obtain ⟨⟨hkind, hmethod⟩, hi, hr, hreplace⟩ := h
  have hb : ¬((s.renderer? kind method).isSome && !r.replace) = true := by
    cases hsome : (s.renderer? kind method).isSome with
    | false => simp
    | true => simp [hreplace hsome]
  rw [Registration.run_eq]
  unfold Schema.register
  rw [KindArgument.resolve_eq_ok_iff.2 hkind]
  simp only [hmethod, Value.text?, hi, hr, if_true]
  change StateT.run (ExceptT.run (ite _ _ _)) s = _
  rw [if_neg hb]
  rfl

/-- A registration succeeds if it tells a kind, a method that is an identifier and a renderer, and
takes no method from a renderer without saying so. -/
theorem run_ok_iff : (r.run s).1 = .ok () ↔
    ∃ kind method renderer, r.Installs s kind method renderer := by
  constructor
  · intro hok
    rcases r.run_cases s with ⟨fault, hrun⟩ | ⟨kind, method, renderer, h, -⟩
    · simp [hrun] at hok
    · exact ⟨kind, method, renderer, h⟩
  · rintro ⟨kind, method, renderer, h⟩
    rw [h.run_eq]

end Registration

/-! ### Tables and answers -/

namespace Schema

variable {s s' : Schema} {kind kind' : TargetKind} {method : String} {r : Registration}
  {log : List Registration}

theorem renderers_insert_self (s : Schema) (kind : TargetKind) (method : String)
    (renderer : Renderer) : (s.insert kind method renderer).renderers kind =
      (method, renderer) :: (s.renderers kind).filter (·.1 ≠ method) := by
  cases kind <;> rfl

theorem renderers_insert_of_ne (h : kind' ≠ kind) (s : Schema) (method : String)
    (renderer : Renderer) :
    (s.insert kind method renderer).renderers kind' = s.renderers kind' := by
  cases kind <;> cases kind' <;> first | rfl | exact absurd rfl h

theorem supports_text (s : Schema) (kind : TargetKind) (method : String) :
    s.supports kind (.text method) = .ok (s.renderer? kind method).isSome := by
  simp [supports, find?, Except.map]

theorem find?_of_not_text {v : Value} (hv : v.IsScalar) (h : ∀ method, v ≠ .text method)
    (s : Schema) (kind : TargetKind) : s.find? kind v = .ok none := by
  cases v with
  | text method => exact absurd rfl (h method)
  | list _ => exact absurd hv id
  | object _ => exact absurd hv id
  | _ => rfl

theorem mem_methods_iff : method ∈ s.methods kind ↔ (s.renderer? kind method).isSome = true := by
  unfold methods renderer?
  rw [List.mem_mergeSort, List.lookup_isSome_iff]
  simp

/-- Sorted names are strictly sorted if no name is listed twice. -/
theorem methods_strict (h : ((s.renderers kind).map Prod.fst).Nodup) :
    (s.methods kind).Pairwise (· < ·) := by
  have hle : (s.methods kind).Pairwise (· ≤ ·) := by
    have htrans : ∀ a b c : String, decide (a ≤ b) = true → decide (b ≤ c) = true →
        decide (a ≤ c) = true := by
      intro a b c hab hbc
      simpa using le_trans (of_decide_eq_true hab) (of_decide_eq_true hbc)
    have htotal : ∀ a b : String, (decide (a ≤ b) || decide (b ≤ a)) = true := by
      intro a b
      simpa using le_total a b
    have hsorted := List.pairwise_mergeSort htrans htotal ((s.renderers kind).map Prod.fst)
    simpa only [methods, decide_eq_true_eq] using hsorted
  have hne : (s.methods kind).Pairwise (· ≠ ·) :=
    (List.mergeSort_perm _ _).nodup_iff.2 h
  exact (List.pairwise_and_iff.2 ⟨hle, hne⟩).imp fun h => lt_of_le_of_ne h.1 h.2

/-! ### Runs -/

/-- The schema after a run of registrations, whether they succeed or not. -/
def after (s : Schema) (calls : List Registration) : Schema :=
  calls.foldl (fun s r => (r.run s).2) s

/-- The registrations of a run that succeed. -/
def accepted (s : Schema) : List Registration → List Registration
  | [] => []
  | r :: calls =>
    match r.run s with
    | (.ok _, s) => r :: s.accepted calls
    | (.error _, s) => s.accepted calls

theorem after_append (s : Schema) (calls calls' : List Registration) :
    s.after (calls ++ calls') = (s.after calls).after calls' := List.foldl_append

/-- What a log of registrations says of the schema that they made. -/
structure Reflects (log : List Registration) (s : Schema) : Prop where
  entries : ∀ r ∈ log, ∃ kind method renderer, r.names kind (.text method) ∧
    Text.isIdentifier method = true ∧ r.renderer = some renderer
  serves : ∀ kind method, s.renderer? kind method =
    (log.reverse.find? fun r => r.names kind (.text method)).bind Registration.renderer
  replaced : log.Pairwise fun r r' => ∀ kind method, r.names kind method → r'.names kind method →
    r'.replace = true
  distinct : ∀ kind, ((s.renderers kind).map Prod.fst).Nodup

theorem Reflects.isSome_iff (h : Reflects log s) :
    (s.renderer? kind method).isSome = true ↔ ∃ r ∈ log, r.names kind (.text method) := by
  rw [h.serves]
  constructor
  · intro hsome
    obtain ⟨renderer, hr⟩ := Option.isSome_iff_exists.1 hsome
    obtain ⟨r, hfind, -⟩ := Option.bind_eq_some_iff.1 hr
    have hnames := List.find?_some hfind
    exact ⟨r, List.mem_reverse.1 (List.mem_of_find?_eq_some hfind), of_decide_eq_true hnames⟩
  · rintro ⟨r, hr, hnames⟩
    have hsome : (log.reverse.find? fun r => r.names kind (.text method)).isSome = true :=
      List.find?_isSome.2 ⟨r, List.mem_reverse.2 hr, decide_eq_true hnames⟩
    obtain ⟨last, hlast⟩ := Option.isSome_iff_exists.1 hsome
    obtain ⟨_, _, renderer, -, -, hrenderer⟩ :=
      h.entries last (List.mem_reverse.1 (List.mem_of_find?_eq_some hlast))
    rw [hlast, Option.bind_some, hrenderer]
    rfl

/-- A registration that installs its renderer is the last entry of the log. -/
theorem Reflects.insert {renderer : Renderer} (h : Reflects log s)
    (hr : r.Installs s kind method renderer) :
    Reflects (log ++ [r]) (s.insert kind method renderer) where
  entries := by
    intro r' hr'
    rcases List.mem_append.1 hr' with hr' | hr'
    · exact h.entries r' hr'
    · obtain rfl := List.mem_singleton.1 hr'
      exact ⟨kind, method, renderer, hr.names, hr.identifier, hr.renderer⟩
  serves := by
    intro kind' method'
    rw [List.reverse_append, List.reverse_singleton, List.singleton_append, List.find?_cons]
    by_cases hnames : r.names kind' (.text method')
    · have hk : kind = kind' := Registration.tells_unique hr.names.1 hnames.1
      have hm : method = method' := Value.text.inj (hr.names.2.symm.trans hnames.2)
      subst hk hm
      rw [renderer?_insert_self, decide_eq_true hnames]
      exact hr.renderer.symm
    · have hne : kind' ≠ kind ∨ method' ≠ method := by
        by_contra hboth
        rw [not_or, not_not, not_not] at hboth
        obtain ⟨rfl, rfl⟩ := hboth
        exact hnames hr.names
      rw [renderer?_insert_of_ne s hne, decide_eq_false hnames]
      exact h.serves kind' method'
  replaced := by
    refine List.pairwise_append.2 ⟨h.replaced, List.pairwise_singleton _ _, ?_⟩
    intro earlier hearlier r' hr' kind' method' hnames hnames'
    -- the method was served already, by the earlier registration or one after it
    obtain rfl := List.mem_singleton.1 hr'
    have hk : kind = kind' := Registration.tells_unique hr.names.1 hnames'.1
    have hm : .text method = method' := hr.names.2.symm.trans hnames'.2
    subst hk hm
    exact hr.replace (h.isSome_iff.2 ⟨earlier, hearlier, hnames⟩)
  distinct := by
    intro kind'
    by_cases hk : kind' = kind
    · subst hk
      rw [renderers_insert_self, List.map_cons, List.nodup_cons]
      constructor
      · simp
      · exact (h.distinct kind').sublist (List.filter_sublist.map Prod.fst)
    · rw [renderers_insert_of_ne hk]
      exact h.distinct kind'

theorem Reflects.after (h : Reflects log s) (calls : List Registration) :
    Reflects (log ++ s.accepted calls) (s.after calls) := by
  induction calls generalizing log s with
  | nil => simpa [accepted, Schema.after] using h
  | cons r calls ih =>
    rcases r.run_cases s with ⟨fault, hrun⟩ | ⟨kind, method, renderer, hr, hrun⟩
    · simpa [accepted, Schema.after, hrun] using ih h
    · simpa [accepted, Schema.after, hrun] using ih (h.insert hr)

theorem reflects_empty (composer : Composer) : Reflects [] ({ composer } : Schema) where
  entries := by simp
  serves := by
    intro kind method
    cases kind <;> rfl
  replaced := .nil
  distinct := by
    intro kind
    cases kind <;> exact List.nodup_nil

/-! ### Failures and the other kind -/

theorem accepted_append (s : Schema) (calls calls' : List Registration) :
    s.accepted (calls ++ calls') = s.accepted calls ++ (s.after calls).accepted calls' := by
  induction calls generalizing s with
  | nil => rfl
  | cons r calls ih =>
    rcases r.run_cases s with ⟨fault, hrun⟩ | ⟨kind, method, renderer, -, hrun⟩ <;>
      simp [accepted, after, hrun, ih]

/-- A registration that fails could as well not have been made. -/
theorem run_fails (h : ∃ fault, (r.run s).1 = .error fault) (calls : List Registration) :
    s.after (r :: calls) = s.after calls ∧ s.accepted (r :: calls) = s.accepted calls := by
  obtain ⟨fault, hfault⟩ := h
  rcases r.run_cases s with ⟨fault', hrun⟩ | ⟨kind, method, renderer, -, hrun⟩
  · simp [accepted, after, hrun]
  · simp [hrun] at hfault

/-- Schemas that cannot be told apart by what they answer for a kind. -/
structure AgreeOn (kind : TargetKind) (s s' : Schema) : Prop where
  supports : s.supports kind = s'.supports kind
  methods : s.methods kind = s'.methods kind
  render : s.render kind = s'.render kind

theorem AgreeOn.of_renderers (h : s.renderers kind = s'.renderers kind) : AgreeOn kind s s' := by
  have hfind : s.find? kind = s'.find? kind := by
    funext v
    cases v with
    | text method => simp only [find?, renderer?, h]
    | _ => rfl
  constructor
  · funext v
    simp only [Schema.supports, hfind]
  · simp only [Schema.methods, h]
  · funext v context
    simp only [Schema.render, hfind]

/-- A registration for a kind does the same to the table of the kind, whatever the other one is. -/
theorem renderers_run_congr (h : s.renderers kind = s'.renderers kind) (hr : r.tells kind) :
    (r.run s).2.renderers kind = (r.run s').2.renderers kind := by
  have hinstalls : ∀ {s s' : Schema}, s.renderers kind = s'.renderers kind →
      ∀ {kind' method renderer}, r.Installs s kind' method renderer →
        kind = kind' ∧ r.Installs s' kind' method renderer := by
    intro s s' h kind' method renderer hi
    obtain rfl := Registration.tells_unique hr hi.names.1
    refine ⟨rfl, hi.names, hi.identifier, hi.renderer, ?_⟩
    rw [renderer?, ← h]
    exact hi.replace
  rcases r.run_cases s with ⟨fault, hrun⟩ | ⟨kind', method, renderer, hi, hrun⟩
  · rcases r.run_cases s' with ⟨fault', hrun'⟩ | ⟨kind', method, renderer, hi, -⟩
    · rw [hrun, hrun']
      exact h
    · have hrun' := (hinstalls h.symm hi).2.run_eq
      simp [hrun] at hrun'
  · obtain ⟨rfl, hi'⟩ := hinstalls h hi
    rw [hrun, hi'.run_eq, renderers_insert_self, renderers_insert_self, h]

theorem renderers_run_of_not (hr : ¬r.tells kind) (s : Schema) :
    (r.run s).2.renderers kind = s.renderers kind := by
  rcases r.run_cases s with ⟨fault, hrun⟩ | ⟨kind', method, renderer, hi, hrun⟩
  · rw [hrun]
  · have hne : kind ≠ kind' := by
      rintro rfl
      exact hr hi.names.1
    rw [hrun, renderers_insert_of_ne hne]

/-- Only the registrations for a kind decide on its table. -/
theorem renderers_after_filter (h : s.renderers kind = s'.renderers kind)
    (calls : List Registration) :
    (s.after calls).renderers kind = (s'.after (calls.filter (·.tells kind))).renderers kind := by
  induction calls generalizing s s' with
  | nil => exact h
  | cons r calls ih =>
    by_cases hr : r.tells kind
    · rw [List.filter_cons_of_pos (by simpa using hr)]
      exact ih (renderers_run_congr h hr)
    · rw [List.filter_cons_of_neg (by simpa using hr)]
      exact ih ((renderers_run_of_not hr s).trans h)

/-! ### The answers after a run -/

/-- What a schema answers, told by the registrations that succeeded.  Of those for a method the
last one decides. -/
structure AnswersBy (log : List Registration) (s : Schema) : Prop where
  supports : ∀ kind (method : Value), method.IsScalar →
    s.supports kind method = .ok (decide (∃ r ∈ log, r.names kind method))
  renders : ∀ kind method r, (log.reverse.find? fun r => r.names kind (.text method)) = some r →
    ∃ renderer, r.renderer = some renderer ∧
      ∀ context, s.render kind (.text method) context = renderer (context method)
  refuses : ∀ kind (method : Value), method.IsScalar → (∀ r ∈ log, ¬r.names kind method) →
    ∀ context, s.render kind method context = .error (.unsupported method)
  replaced : log.Pairwise fun r r' => ∀ kind method, r.names kind method → r'.names kind method →
    r'.replace = true
  identifiers : ∀ kind, ∀ method ∈ s.methods kind, Text.isIdentifier method = true
  listed : ∀ kind method, method ∈ s.methods kind ↔ s.supports kind (.text method) = .ok true
  sorted : ∀ kind, (s.methods kind).Pairwise (· < ·)

theorem Reflects.not_names {v : Value} (h : Reflects log s) (hv : ∀ method, v ≠ .text method)
    (hr : r ∈ log) : ¬r.names kind v := by
  intro hnames
  obtain ⟨_, method, _, hmethod, -, -⟩ := h.entries r hr
  exact hv method (hnames.2.symm.trans hmethod.2)

theorem Reflects.find?_eq {v : Value} (h : Reflects log s) (hv : v.IsScalar) (kind : TargetKind) :
    ∃ found, s.find? kind v = .ok found ∧ (found.isSome = true ↔ ∃ r ∈ log, r.names kind v) := by
  by_cases ht : ∃ method, v = .text method
  · obtain ⟨method, rfl⟩ := ht
    refine ⟨_, rfl, ?_⟩
    rw [Option.isSome_map, h.isSome_iff]
  · have hne : ∀ method, v ≠ .text method := fun method hm => ht ⟨method, hm⟩
    refine ⟨none, find?_of_not_text hv hne s kind, ?_⟩
    simpa using fun r hr => h.not_names hne hr

theorem Reflects.answersBy (h : Reflects log s) : AnswersBy log s where
  supports := by
    intro kind v hv
    obtain ⟨found, hfind, hiff⟩ := h.find?_eq hv kind
    have hb : found.isSome = decide (∃ r ∈ log, r.names kind v) := by
      rw [Bool.eq_iff_iff, decide_eq_true_iff]
      exact hiff
    rw [Schema.supports, hfind, ← hb]
    rfl
  renders := by
    intro kind method r hfind
    have hr := List.mem_reverse.1 (List.mem_of_find?_eq_some hfind)
    obtain ⟨_, _, renderer, -, -, hrenderer⟩ := h.entries r hr
    refine ⟨renderer, hrenderer, ?_⟩
    intro context
    have hserves := h.serves kind method
    rw [hfind, Option.bind_some, hrenderer] at hserves
    simp [render, find?, hserves]
  refuses := by
    intro kind v hv hnone context
    obtain ⟨found, hfind, hiff⟩ := h.find?_eq hv kind
    cases found with
    | none =>
      rw [render, hfind]
      rfl
    | some entry =>
      obtain ⟨r, hr, hnames⟩ := hiff.1 rfl
      exact absurd hnames (hnone r hr)
  replaced := h.replaced
  identifiers := by
    intro kind method hm
    obtain ⟨r, hr, hnames⟩ := h.isSome_iff.1 (mem_methods_iff.1 hm)
    obtain ⟨_, method', _, hnames', hi, -⟩ := h.entries r hr
    obtain rfl : method' = method := Value.text.inj (hnames'.2.symm.trans hnames.2)
    exact hi
  listed := by
    intro kind method
    rw [mem_methods_iff, supports_text, Except.ok.injEq]
  sorted := fun kind => methods_strict (h.distinct kind)

/-- **What a run of registrations leaves.**  After any run the schema answers by the registrations
that succeeded.  One that failed could as well not have been made, and the answers for a kind are
those after the registrations for that kind alone. -/
theorem after_answersBy_accepted (composer : Composer) (calls : List Registration) :
    let empty : Schema := { composer }
    AnswersBy (empty.accepted calls) (empty.after calls) ∧
      (∀ earlier r later, calls = earlier ++ r :: later →
        ((r.run (empty.after earlier)).1 = .ok () ↔
          ∃ kind method renderer, r.Installs (empty.after earlier) kind method renderer) ∧
        ((∃ fault, (r.run (empty.after earlier)).1 = .error fault) →
          empty.after calls = empty.after (earlier ++ later) ∧
            empty.accepted calls = empty.accepted (earlier ++ later))) ∧
      ∀ kind, AgreeOn kind (empty.after calls) (empty.after (calls.filter (·.tells kind))) := by
  intro empty
  refine ⟨?_, ?_, ?_⟩
  · have hrun : Reflects (empty.accepted calls) (empty.after calls) :=
      (reflects_empty composer).after calls
    exact hrun.answersBy
  · rintro earlier r later rfl
    refine ⟨Registration.run_ok_iff, fun hfails => ?_⟩
    obtain ⟨hafter, haccepted⟩ := run_fails hfails later
    rw [after_append, after_append, accepted_append, accepted_append, hafter, haccepted]
    exact ⟨rfl, rfl⟩
  · intro kind
    exact .of_renderers (renderers_after_filter rfl calls)

end Schema

end SuiteCompiler
