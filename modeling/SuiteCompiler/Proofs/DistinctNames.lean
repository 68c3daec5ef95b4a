/-
  SuiteCompiler/Proofs/DistinctNames.lean
  =======================================
  Objects that are read have no name twice.

  A text may give a field twice.  The reader keeps such a field once, so of a value that
  is read every object, wherever it stands, has names that differ (`hasDistinctNames_of_parse`).
  The readers of values, items and fields call each other, and one induction on the bound
  of the calls is for all three.
-/
import Mathlib.Data.List.Nodup
import SuiteCompiler.Document.Reader
import SuiteCompiler.Proofs.Grammar
import SuiteCompiler.Template.Schema

namespace SuiteCompiler

/-- No object in a value has a name twice. -/
inductive Value.HasDistinctNames : Value → Prop
  | scalar {v : Value} (h : v.IsScalar) : HasDistinctNames v
  | list {items : List Value} (h : ∀ item ∈ items, HasDistinctNames item) :
      HasDistinctNames (.list items)
  | object {fields : Fields} (hnames : (fields.map (·.1)).Nodup)
      (h : ∀ field ∈ fields, HasDistinctNames field.2) : HasDistinctNames (.object fields)

/-! ### Fields -/

namespace Fields

theorem mem_names_set (name : String) (value : Value) (fields : Fields) {other : String} :
    other ∈ (fields.set name value).map (·.1) ↔ other = name ∨ other ∈ fields.map (·.1) := by
  induction fields with
  | nil => simp [set]
  | cons field fields ih =>
    obtain ⟨n, v⟩ := field
    by_cases hn : n = name
    · simp [set, hn]
    · rw [set, if_neg hn, List.map_cons, List.mem_cons, ih, List.map_cons, List.mem_cons]
      exact or_left_comm

theorem nodup_names_set (name : String) (value : Value) {fields : Fields}
    (h : (fields.map (·.1)).Nodup) : ((fields.set name value).map (·.1)).Nodup := by
  induction fields with
  | nil => simp [set]
  | cons field fields ih =>
    obtain ⟨n, v⟩ := field
    obtain ⟨hn, hfields⟩ := List.nodup_cons.1 h
    by_cases hname : n = name
    · simpa [set, hname] using h
    · rw [set, if_neg hname, List.map_cons, List.nodup_cons, mem_names_set]
      exact ⟨not_or.2 ⟨hname, hn⟩, ih hfields⟩

theorem forall_mem_set {P : Value → Prop} (name : String) {value : Value} {fields : Fields}
    (hvalue : P value) (h : ∀ field ∈ fields, P field.2) :
    ∀ field ∈ fields.set name value, P field.2 := by
  induction fields with
  | nil => simpa [set] using hvalue
  | cons field fields ih =>
    obtain ⟨n, v⟩ := field
    rw [List.forall_mem_cons] at h
    by_cases hn : n = name
    · rw [set, if_pos hn, List.forall_mem_cons]
      exact ⟨hvalue, h.2⟩
    · rw [set, if_neg hn, List.forall_mem_cons]
      exact ⟨h.1, ih h.2⟩

/-- Whatever the names of the pairs are, those of the fields differ, and the values are as they
were. -/
theorem ofPairs_induction {P : Value → Prop} {pairs : List (String × Value)}
    (h : ∀ pair ∈ pairs, P pair.2) :
    ((ofPairs pairs).map (·.1)).Nodup ∧ ∀ field ∈ ofPairs pairs, P field.2 := by
  have hfold : ∀ fields : Fields, (fields.map (·.1)).Nodup → (∀ field ∈ fields, P field.2) →
      ((pairs.foldl (fun fields pair => fields.set pair.1 pair.2) fields).map (·.1)).Nodup ∧
        ∀ field ∈ pairs.foldl (fun fields pair => fields.set pair.1 pair.2) fields, P field.2 := by
    induction pairs with
    | nil => exact fun _ hnames hvalues => ⟨hnames, hvalues⟩
    | cons pair pairs ih =>
      intro fields hnames hvalues
      rw [List.forall_mem_cons] at h
      exact ih h.2 _ (nodup_names_set _ _ hnames) (forall_mem_set _ h.1 hvalues)
  exact hfold [] List.nodup_nil (List.forall_mem_nil _)

end Fields

/-! ### Readers -/

namespace Json

/-- What is read, if anything is, is as said. -/
def Produces {α : Type} (P : α → Prop) (reading : Reading α) : Prop :=
  ∀ a rest, reading = .ok (a, rest) → P a

theorem Produces.map {α β : Type} {P : α → Prop} {Q : β → Prop} {reading : Reading α} {f : α → β}
    (h : Produces P reading) (hf : ∀ a, P a → Q (f a)) :
    Produces Q (reading.map fun (a, rest) => (f a, rest)) := by
  intro b rest hb
  cases reading with
  | error stop => cases hb
  | ok result =>
    obtain ⟨rfl, rfl⟩ := Prod.mk.inj (Except.ok.inj hb)
    exact hf _ (h _ _ rfl)

theorem isScalar_of_readUnsigned {negative : Bool} {cs rest : List Char} {v : Value}
    (h : readUnsigned negative cs = some (.ok v, rest)) : v.IsScalar := by
  unfold readUnsigned at h
  split at h
  · cases h
  · dsimp only at h
    split at h
    · split at h
      · cases h
      · cases h
        trivial
    · cases h
      trivial

theorem produces_readNumber (cs : List Char) : Produces Value.IsScalar (readNumber cs) := by
  intro v rest h
  unfold readNumber at h
  dsimp only at h
  split at h
  · cases h
  · cases h
  · next hread =>
    cases h
    split at hread
    · exact isScalar_of_readUnsigned hread
    · exact isScalar_of_readUnsigned hread

theorem produces_readScalar (cs : List Char) : Produces Value.IsScalar (readScalar cs) := by
  have hwords : ∀ word ∈ words, word.2.IsScalar := by simp [words, Value.IsScalar]
  unfold readScalar
  split
  · next found hfound =>
    obtain ⟨word, hword, hvalue⟩ := List.exists_of_findSome?_eq_some hfound
    obtain ⟨more, -, rfl⟩ := Option.map_eq_some_iff.1 hvalue
    intro v rest h
    obtain ⟨rfl, -⟩ := Prod.mk.inj (Except.ok.inj h)
    exact hwords word hword
  · exact produces_readNumber cs

section Step

variable {fuel : Nat}
  (hvalue : ∀ cs, Produces Value.HasDistinctNames (readValue fuel cs))
  (hitems : ∀ cs, Produces (∀ item ∈ ·, Value.HasDistinctNames item) (readItems fuel cs))
  (hfields : ∀ cs, Produces (∀ field ∈ ·, Value.HasDistinctNames field.2) (readFields fuel cs))

include hitems hfields in
theorem produces_readValue_succ (cs : List Char) :
    Produces Value.HasDistinctNames (readValue (fuel + 1) cs) := by
  unfold readValue
  split
  · next rest =>
    have htext : Produces (fun _ => True) (readText rest) := fun _ _ _ => trivial
    exact htext.map fun _ _ => .scalar trivial
  · split
    · intro v rest h
      cases h
      exact .list (List.forall_mem_nil _)
    · exact (hitems _).map fun _ h => .list h
  · split
    · intro v rest h
      cases h
      exact .object List.nodup_nil (List.forall_mem_nil _)
    · refine (hfields _).map (f := fun pairs => Value.object (Fields.ofPairs pairs)) ?_
      intro pairs h
      obtain ⟨hnames, hvalues⟩ := Fields.ofPairs_induction h
      exact .object hnames hvalues
  · intro v rest h
    exact .scalar (produces_readScalar _ _ _ h)

include hvalue hitems in
theorem produces_readItems_succ (cs : List Char) :
    Produces (∀ item ∈ ·, Value.HasDistinctNames item) (readItems (fuel + 1) cs) := by
  unfold readItems
  split
  · nofun
  · next item rest hread =>
    have hitem := hvalue _ _ _ hread
    split
    · intro items rest h
      cases h
      exact List.forall_mem_singleton.2 hitem
    · exact (hitems _).map fun _ h => List.forall_mem_cons.2 ⟨hitem, h⟩
    · nofun

include hvalue hfields in
theorem produces_readFields_succ (cs : List Char) :
    Produces (∀ field ∈ ·, Value.HasDistinctNames field.2) (readFields (fuel + 1) cs) := by
  unfold readFields
  split
  · split
    · nofun
    · split
      · split
        · nofun
        · next value rest hread =>
          have hfield := hvalue _ _ _ hread
          split
          · intro fields rest h
            cases h
            exact List.forall_mem_singleton.2 hfield
          · exact (hfields _).map fun _ h => List.forall_mem_cons.2 ⟨hfield, h⟩
          · nofun
      · nofun
  · nofun

end Step

theorem produces_read (fuel : Nat) :
    (∀ cs, Produces Value.HasDistinctNames (readValue fuel cs)) ∧
    (∀ cs, Produces (∀ item ∈ ·, Value.HasDistinctNames item) (readItems fuel cs)) ∧
    ∀ cs, Produces (∀ field ∈ ·, Value.HasDistinctNames field.2) (readFields fuel cs) := by
  induction fuel with
  | zero => exact ⟨nofun, nofun, nofun⟩
  | succ fuel ih =>
    obtain ⟨hvalue, hitems, hfields⟩ := ih
    refine ⟨?_, ?_, ?_⟩
    · exact produces_readValue_succ hitems hfields
    · exact produces_readItems_succ hvalue hitems
    · exact produces_readFields_succ hvalue hfields

end Json

/-- No object in a value that is read has a name twice. -/
theorem Value.hasDistinctNames_of_parse {s : String} {v : Value} (h : parse s = .ok v) :
    v.HasDistinctNames := by
  unfold parse parseChars at h
  split at h
  · next v' hread =>
    obtain rfl := Except.ok.inj h
    unfold Json.readDocument at hread
    split at hread
    · cases hread
    · split at hread
      · cases hread
      · next result rest hresult =>
        split at hread
        · obtain rfl := Except.ok.inj hread
          exact (Json.produces_read _).1 _ _ _ hresult
        · cases hread
  · cases h
  · cases h

/-! ### Members -/

namespace Value.HasDistinctNames

variable {v : Value}

theorem object_iff {fields : Fields} : (Value.object fields).HasDistinctNames ↔
    (fields.map (·.1)).Nodup ∧ ∀ field ∈ fields, field.2.HasDistinctNames := by
  constructor
  · intro h
    cases h with
    | scalar h => exact h.elim
    | object hnames h => exact ⟨hnames, h⟩
  · rintro ⟨hnames, h⟩
    exact .object hnames h

theorem forall_mem_members (h : v.HasDistinctNames) :
    (v.members.map (·.1)).Nodup ∧ ∀ field ∈ v.members, field.2.HasDistinctNames := by
  cases v with
  | object fields => exact object_iff.1 h
  | _ => exact ⟨List.nodup_nil, List.forall_mem_nil _⟩

theorem nodup_names (h : v.HasDistinctNames) : (v.members.map (·.1)).Nodup :=
  h.forall_mem_members.1

theorem of_get? (h : v.HasDistinctNames) {name : String} {w : Value}
    (hw : v.members.get? name = some w) : w.HasDistinctNames :=
  h.forall_mem_members.2 _ (mem_of_lookup hw)

theorem member (h : v.HasDistinctNames) (name : String) : (v.member name).HasDistinctNames := by
  have hmember : v.member name = (v.members.get? name).getD .null := rfl
  rw [hmember]
  cases hget : v.members.get? name with
  | none => exact .scalar trivial
  | some w => exact h.of_get? hget

end Value.HasDistinctNames

end SuiteCompiler
