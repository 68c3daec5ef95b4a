/-
  SuiteCompiler/Proofs/Outcome.lean
  =================================
  Outcomes of computations that run over a list and stop at the first failure.

  `check` forgets the value of an outcome and keeps its failure.  Over a list only
  the checks of the elements decide whether a run fails (`check_mapM`), and the
  first element that fails decides how (`forM_eq_error_iff`).
-/
import SuiteCompiler.Generation.Log

namespace SuiteCompiler.Outcome

variable {ε ε' α β : Type}

/-! ### Single computations -/

@[simp] theorem ok_bind (a : α) (f : α → Except ε β) : (Except.ok a >>= f) = f a := rfl

@[simp] theorem error_bind (e : ε) (f : α → Except ε β) :
    ((Except.error e : Except ε α) >>= f) = .error e := rfl

@[simp] theorem pure_eq_ok (a : α) : (pure a : Except ε α) = .ok a := rfl

@[simp] theorem mapError_ok (f : ε → ε') (a : α) :
    (Except.ok a : Except ε α).mapError f = .ok a := rfl

@[simp] theorem mapError_error (f : ε → ε') (e : ε) :
    (Except.error e : Except ε α).mapError f = .error (f e) := rfl

theorem bind_eq_ok_iff {x : Except ε α} {f : α → Except ε β} {b : β} :
    x >>= f = .ok b ↔ ∃ a, x = .ok a ∧ f a = .ok b := by
  cases x <;> simp

theorem bind_pure_eq_ok_iff {x : Except ε α} {f : α → β} {b : β} :
    (x >>= fun a => pure (f a)) = .ok b ↔ ∃ a, x = .ok a ∧ b = f a := by
  cases x <;> simp [eq_comm]

theorem map_eq_ok_iff {x : Except ε α} {f : α → β} {b : β} :
    x.map f = .ok b ↔ ∃ a, x = .ok a ∧ f a = b := by
  cases x <;> simp [Except.map]

theorem mapError_eq_ok_iff {x : Except ε α} {f : ε → ε'} {a : α} :
    x.mapError f = .ok a ↔ x = .ok a := by
  cases x <;> simp

theorem mapError_eq_error_iff {x : Except ε α} {f : ε → ε'} {e' : ε'} :
    x.mapError f = .error e' ↔ ∃ e, x = .error e ∧ f e = e' := by
  cases x <;> simp

/-- What follows a computation sees no more of it than it uses. -/
theorem bind_comp_congr {γ : Type} {x y : Except ε α} {f : α → β} (h : x.map f = y.map f)
    (k : β → Except ε γ) : (x >>= fun a => k (f a)) = y >>= fun a => k (f a) := by
  have hmap : ∀ z : Except ε α, (z >>= fun a => k (f a)) = z.map f >>= k := by
    intro z
    cases z <;> rfl
  rw [hmap x, hmap y, h]

/-- The failure of a computation, without the value that it gives if it does not fail. -/
def check (x : Except ε α) : Except ε Unit := x.map fun _ => ()

@[simp] theorem check_ok (a : α) : check (Except.ok a : Except ε α) = .ok () := rfl

@[simp] theorem check_error (e : ε) : check (Except.error e : Except ε α) = .error e := rfl

theorem check_eq_ok_iff {x : Except ε α} : check x = .ok () ↔ ∃ a, x = .ok a := by
  cases x <;> simp

theorem check_eq_error_iff {x : Except ε α} {e : ε} : check x = .error e ↔ x = .error e := by
  cases x <;> simp

/-- A step that cannot fail does not matter. -/
theorem check_bind_of_total (x : Except ε α) {f : α → Except ε β}
    (hf : ∀ a, ∃ b, f a = .ok b) : check (x >>= f) = check x := by
  cases x with
  | error e => rfl
  | ok a =>
    obtain ⟨b, hb⟩ := hf a
    simp [hb]

theorem check_bind_pure (x : Except ε α) (f : α → β) :
    check (x >>= fun a => pure (f a)) = check x := by
  cases x <;> rfl

/-! ### Runs over a list -/

theorem mapM_cons_eq_ok_iff {f : α → Except ε β} {a : α} {xs : List α} {ys : List β} :
    (a :: xs).mapM f = .ok ys ↔ ∃ b bs, ys = b :: bs ∧ f a = .ok b ∧ xs.mapM f = .ok bs := by
  rw [List.mapM_cons]
  cases f a with
  | error e => simp
  | ok b =>
    cases xs.mapM f with
    | error e => simp
    | ok bs => simp [eq_comm]

/-- What can be told of the results that are kept, if it can be told of the elements they come
from. -/
theorem map_filter_of_mapM {γ : Type} {f : α → Except ε β} {p : β → γ} {q : α → γ}
    {keep : β → Bool} {keep' : α → Bool} {xs : List α} {ys : List β} (h : xs.mapM f = .ok ys)
    (hkeep : ∀ x ∈ xs, ∀ y, f x = .ok y → keep y = keep' x)
    (hf : ∀ x ∈ xs, ∀ y, f x = .ok y → keep' x = true → p y = q x) :
    (ys.filter keep).map p = (xs.filter keep').map q := by
  induction xs generalizing ys with
  | nil =>
    obtain rfl : [] = ys := Except.ok.inj h
    rfl
  | cons x xs ih =>
    obtain ⟨y, rest, rfl, hy, hrest⟩ := mapM_cons_eq_ok_iff.1 h
    have hxs := ih hrest (fun x' hx' => hkeep x' (List.mem_cons_of_mem x hx'))
      fun x' hx' => hf x' (List.mem_cons_of_mem x hx')
    have hx := hkeep x List.mem_cons_self y hy
    cases hk : keep' x with
    | false =>
      rw [List.filter_cons_of_neg (by simp [hx, hk]), hxs,
        List.filter_cons_of_neg (by simp [hk])]
    | true =>
      rw [List.filter_cons_of_pos (by simp [hx, hk]), List.filter_cons_of_pos hk, List.map_cons,
        List.map_cons, hxs, hf x List.mem_cons_self y hy hk]

/-- What can be told of the results, if it can be told of the elements they come from. -/
theorem map_of_mapM {γ : Type} {f : α → Except ε β} {p : β → γ} {q : α → γ} {xs : List α}
    {ys : List β} (h : xs.mapM f = .ok ys) (hf : ∀ x ∈ xs, ∀ y, f x = .ok y → p y = q x) :
    ys.map p = xs.map q := by
  have hall : (ys.filter fun _ => true).map p = (xs.filter fun _ => true).map q :=
    map_filter_of_mapM h (fun _ _ _ _ => rfl) fun x hx y hy _ => hf x hx y hy
  rwa [List.filter_eq_self.2 fun _ _ => rfl, List.filter_eq_self.2 fun _ _ => rfl] at hall

theorem mapM_congr {f g : α → Except ε β} {xs : List α} (h : ∀ a ∈ xs, f a = g a) :
    xs.mapM f = xs.mapM g := by
  induction xs with
  | nil => rfl
  | cons a xs ih =>
    rw [List.mapM_cons, List.mapM_cons, h a List.mem_cons_self,
      ih fun b hb => h b (List.mem_cons_of_mem a hb)]

/-- The elements whose results are not kept can be left out, if they have results. -/
theorem mapM_filter_map_filter {f : α → Except ε β} {keep : α → Bool} {kept : β → Bool}
    {xs : List α} (h : ∀ a ∈ xs, keep a = false → ∃ b, f a = .ok b ∧ kept b = false) :
    ((xs.filter keep).mapM f).map (List.filter kept) = (xs.mapM f).map (List.filter kept) := by
  induction xs with
  | nil => rfl
  | cons a xs ih =>
    have hxs := ih fun b hb => h b (List.mem_cons_of_mem a hb)
    cases hk : keep a with
    | false =>
      obtain ⟨b, hb, hkept⟩ := h a List.mem_cons_self hk
      rw [List.filter_cons_of_neg (by simp [hk]), hxs, List.mapM_cons, hb]
      cases xs.mapM f with
      | error e => rfl
      | ok bs => simp [Except.map, hkept]
    | true =>
      rw [List.filter_cons_of_pos hk, List.mapM_cons, List.mapM_cons]
      cases hf : f a with
      | error e => rfl
      | ok b =>
        -- the rest fails alike on both sides, or what is kept of it is the same
        cases hl : (xs.filter keep).mapM f <;> cases hr : xs.mapM f <;>
          simp_all [Except.map, List.filter_cons]

/-- `a` is the first element of a list on which a computation fails, and it fails with `e`. -/
def FirstError (f : α → Except ε β) (xs : List α) (a : α) (e : ε) : Prop :=
  ∃ before after, xs = before ++ a :: after ∧
    (∀ b ∈ before, ∃ y, f b = .ok y) ∧ f a = .error e

theorem check_mapM (f : α → Except ε β) (xs : List α) :
    check (xs.mapM f) = xs.forM fun a => check (f a) := by
  induction xs with
  | nil => rfl
  | cons a xs ih =>
    rw [List.mapM_cons, List.forM_eq_forM, List.forM_cons]
    cases f a with
    | error e => rfl
    | ok b =>
      rw [ok_bind, check_ok, ok_bind, check_bind_pure, ih]
      rfl

/-- A run succeeds if every element does. -/
theorem forM_eq_ok_iff {f : α → Except ε Unit} {xs : List α} :
    xs.forM f = .ok () ↔ ∀ a ∈ xs, f a = .ok () := by
  induction xs with
  | nil => simp
  | cons a xs ih =>
    rw [List.forM_eq_forM] at ih
    cases h : f a <;> simp [h, ih]

/-- There are results if there is one for every element. -/
theorem exists_mapM_eq_ok_iff {f : α → Except ε β} {xs : List α} :
    (∃ ys, xs.mapM f = .ok ys) ↔ ∀ a ∈ xs, ∃ b, f a = .ok b := by
  rw [← check_eq_ok_iff, check_mapM, forM_eq_ok_iff]
  exact forall_congr' fun a => imp_congr_right fun _ => check_eq_ok_iff

/-- A run fails as its first failing element does. -/
theorem forM_eq_error_iff {f : α → Except ε Unit} {xs : List α} {e : ε} :
    xs.forM f = .error e ↔ ∃ a, FirstError f xs a e := by
  induction xs with
  | nil => simp [FirstError]
  | cons a xs ih =>
    rw [List.forM_eq_forM] at ih
    rw [List.forM_eq_forM, List.forM_cons]
    cases h : f a with
    | error e' =>
      constructor
      · intro he
        exact ⟨a, [], xs, rfl, by simp, by simpa [h] using he⟩
      · rintro ⟨b, before, after, hxs, hbefore, hb⟩
        cases before with
        | nil =>
          obtain ⟨rfl, -⟩ := List.cons.inj hxs
          simpa [h] using hb
        | cons c before =>
          obtain ⟨rfl, -⟩ := List.cons.inj hxs
          obtain ⟨y, hy⟩ := hbefore a List.mem_cons_self
          simp [h] at hy
    | ok u =>
      rw [ok_bind, ih]
      constructor
      · rintro ⟨b, before, after, rfl, hbefore, hb⟩
        refine ⟨b, a :: before, after, rfl, ?_, hb⟩
        intro c hc
        rcases List.mem_cons.1 hc with rfl | hc
        · exact ⟨u, h⟩
        · exact hbefore c hc
      · rintro ⟨b, before, after, hxs, hbefore, hb⟩
        cases before with
        | nil =>
          obtain ⟨rfl, -⟩ := List.cons.inj hxs
          simp [h] at hb
        | cons c before =>
          obtain ⟨rfl, rfl⟩ := List.cons.inj hxs
          exact ⟨b, before, after, rfl, fun d hd => hbefore d (List.mem_cons_of_mem _ hd), hb⟩

theorem firstError_check {f : α → Except ε β} {xs : List α} {a : α} {e : ε} :
    FirstError (fun a => check (f a)) xs a e ↔ FirstError f xs a e := by
  unfold FirstError
  simp only [check_eq_error_iff]
  refine exists_congr fun before => exists_congr fun after => and_congr_right fun _ => ?_
  refine and_congr_left fun _ => forall_congr' fun b => imp_congr_right fun _ => ?_
  cases f b <;> simp

/-- A failure anywhere in a list is behind a first one. -/
theorem exists_firstError {f : α → Except ε β} {xs : List α} {a : α} {e : ε} (ha : a ∈ xs)
    (he : f a = .error e) : ∃ b e', FirstError f xs b e' := by
  cases h : xs.forM fun a => check (f a) with
  | error e' =>
    obtain ⟨b, hb⟩ := forM_eq_error_iff.1 h
    exact ⟨b, e', firstError_check.1 hb⟩
  | ok u =>
    have hok := forM_eq_ok_iff.1 h a ha
    simp [he] at hok

/-- No list has two first failures. -/
theorem FirstError.unique {f : α → Except ε β} {xs : List α} {a b : α} {e e' : ε}
    (ha : FirstError f xs a e) (hb : FirstError f xs b e') : a = b ∧ e = e' := by
  obtain ⟨before, after, rfl, hbefore, ha⟩ := ha
  obtain ⟨before', after', hxs, hbefore', hb⟩ := hb
  induction before generalizing before' with
  | nil =>
    cases before' with
    | nil =>
      obtain ⟨rfl, -⟩ := List.cons.inj hxs
      rw [ha] at hb
      exact ⟨rfl, Except.error.inj hb⟩
    | cons c before' =>
      obtain ⟨rfl, -⟩ := List.cons.inj hxs
      obtain ⟨y, hy⟩ := hbefore' a List.mem_cons_self
      rw [ha] at hy
      cases hy
  | cons c before ih =>
    cases before' with
    | nil =>
      obtain ⟨rfl, -⟩ := List.cons.inj hxs
      obtain ⟨y, hy⟩ := hbefore c List.mem_cons_self
      rw [hb] at hy
      cases hy
    | cons c' before' =>
      obtain ⟨rfl, hrest⟩ := List.cons.inj hxs
      exact ih (fun d hd => hbefore d (List.mem_cons_of_mem _ hd)) before' hrest
        fun d hd => hbefore' d (List.mem_cons_of_mem _ hd)

theorem mapM_eq_error_iff {f : α → Except ε β} {xs : List α} {e : ε} :
    xs.mapM f = .error e ↔ ∃ a, FirstError f xs a e := by
  rw [← check_eq_error_iff, check_mapM, forM_eq_error_iff]
  exact exists_congr fun a => firstError_check

theorem forM_flatMap (f : β → Except ε Unit) (g : α → List β) (xs : List α) :
    (xs.flatMap g).forM f = xs.forM fun a => (g a).forM f := by
  induction xs with
  | nil => rfl
  | cons a xs ih =>
    rw [List.flatMap_cons, List.forM_eq_forM, List.forM_append]
    exact congrArg _ (funext fun _ => ih)

theorem forM_filter (f : α → Except ε Unit) (p : α → Bool) (xs : List α) :
    (xs.filter p).forM f = xs.forM fun a => if p a then f a else .ok () := by
  induction xs with
  | nil => rfl
  | cons a xs ih =>
    rw [List.forM_eq_forM] at ih
    by_cases h : p a = true <;> simp [h, ih]

theorem forM_congr {f g : α → Except ε Unit} {xs : List α} (h : ∀ a ∈ xs, f a = g a) :
    xs.forM f = xs.forM g := by
  induction xs with
  | nil => rfl
  | cons a xs ih =>
    have hxs := ih fun b hb => h b (List.mem_cons_of_mem a hb)
    rw [List.forM_eq_forM] at hxs
    simp [h a List.mem_cons_self, hxs]

end SuiteCompiler.Outcome

namespace SuiteCompiler.Logged

/-- The outcome of a list of computations is that of their outcomes. -/
theorem outcome_each {ε α β : Type} (f : α → Logged ε β) (xs : List α) :
    (each f xs).outcome = xs.mapM fun a => (f a).outcome := by
  induction xs with
  | nil => rfl
  | cons a xs ih =>
    rw [each, outcome_bind, List.mapM_cons]
    refine bind_congr fun b => ?_
    rw [outcome_bind, ih]
    rfl

end SuiteCompiler.Logged
