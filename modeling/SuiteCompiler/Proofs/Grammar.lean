/-
  SuiteCompiler/Proofs/Grammar.lean
  =================================
  Which values are documents, and what a suite keeps of its document.

  The grammar says where a value has to be null or an object, and that no two commands
  of a test have one id (`Suite.IsDocument`).  It reads the value alone.  Against it
  stand the readers of the model, level by level: each accepts what the grammar admits,
  keeps the records in their places and under their ids, and refuses all else by a fault
  of structure (`Reads`).

  One thing is outside the grammar: a target is kept under an id that nothing checks, so
  a list or an object there is no fault of structure (`Targets.HasScalarIds`).
-/
import Mathlib.Data.List.Forall2
import SuiteCompiler.Proofs.Outcome
import SuiteCompiler.Suite.Snippets

namespace SuiteCompiler

open Outcome

/-! ### Records -/

namespace Value

/-- The fields of an object, none of any other value. -/
def members : Value → Fields
  | .object fields => fields
  | _ => []

/-- The value of a field of an object, null if there is none. -/
def member (v : Value) (name : String) : Value := v.members.get name

/-- A record is an object, or null, which stands for one without fields. -/
def IsRecord (v : Value) : Prop := v = .null ∨ ∃ fields, v = .object fields

def IsScalar : Value → Prop
  | .list _ => False
  | .object _ => False
  | _ => True

theorem isSome_key?_iff {v : Value} : v.key?.isSome = true ↔ v.IsScalar := by
  cases v with
  | float x => cases h : x.integer? <;> simp [key?, IsScalar, h]
  | _ => simp [key?, IsScalar]

theorem orElse_of_isTruthy {v : Value} (h : v.isTruthy = true) (other : Value) :
    v.orElse other = v :=
  if_pos h

theorem orElse_of_not_isTruthy {v : Value} (h : v.isTruthy = false) (other : Value) :
    v.orElse other = other := by
  unfold orElse
  rw [if_neg (by simp [h])]

theorem isTruthy_orElse_empty (v : Value) : (v.orElse .empty).isTruthy = v.isTruthy := by
  cases h : v.isTruthy with
  | true => rw [orElse_of_isTruthy h, h]
  | false =>
    rw [orElse_of_not_isTruthy h]
    rfl

theorem orElse_text_empty (s : String) : (text s).orElse .empty = .text s := by
  by_cases h : s = ""
  · simp [orElse, isTruthy, empty, h]
  · exact orElse_of_isTruthy (by simp [isTruthy, h]) _

end Value

/-- The id of a record that is listed under a key: its own, or else the key. -/
def listedId (entry : String × Value) : String :=
  ((entry.2.members.get? "id").getD (.text entry.1)).display

theorem Fields.require_withId (fields : Fields) (key entity : String) :
    (fields.withId key).require "id" entity = .ok ((fields.get? "id").getD (.text key)) := by
  unfold Fields.withId Fields.require Fields.has Fields.get?
  cases h : fields.lookup "id" with
  | none => simp
  | some v => simp [h]

theorem Fields.get_withId (fields : Fields) (key : String) {name : String} (h : name ≠ "id") :
    (fields.withId key).get name = fields.get name := by
  unfold Fields.withId
  split
  · rfl
  · have hne : (name == "id") = false := by simpa using h
    simp [Fields.get, List.lookup_cons, hne]

/-! ### The grammar -/

structure Command.IsDocument (v : Value) : Prop where
  record : v.IsRecord
  params : (v.member "params").IsRecord

structure Test.IsDocument (v : Value) : Prop where
  record : v.IsRecord
  commands : (v.member "commands").IsRecord
  each : ∀ entry ∈ (v.member "commands").members, Command.IsDocument entry.2
  distinct : ((v.member "commands").members.map listedId).Nodup

/-- The documents of tests under their keys. -/
structure Test.AreDocuments (v : Value) : Prop where
  record : v.IsRecord
  each : ∀ entry ∈ v.members, Test.IsDocument entry.2

structure Group.IsDocument (v : Value) : Prop where
  record : v.IsRecord
  tests : Test.AreDocuments (v.member "tests")

/-- Targets are listed by a selector, or by null in the place of one, or by a record. -/
structure Targets.IsDocument (v : Value) : Prop where
  record : v.IsRecord
  each : ∀ entry ∈ v.members, (∃ selector, entry.2 = .text selector) ∨ entry.2.IsRecord

structure Suite.IsDocument (v : Value) : Prop where
  record : v.IsRecord
  groups : (v.member "groups").IsRecord
  each : ∀ entry ∈ (v.member "groups").members, Group.IsDocument entry.2
  targets : Targets.IsDocument (v.member "targets")

/-- The value that lists the tests of a library, in either layout. -/
def SnippetLibrary.listedTests (v : Value) : Value :=
  (v.members.get? "tests").getD (((v.member "groups").member groupId).member "tests")

structure SnippetLibrary.IsDocument (v : Value) : Prop where
  record : v.IsRecord
  groups : v.members.get? "tests" = none →
    (v.member "groups").IsRecord ∧ ((v.member "groups").member groupId).IsRecord
  tests : Test.AreDocuments (listedTests v)
  targets : Targets.IsDocument (v.member "targets")

/-- The id under which a listed target is kept is a scalar.  It is the id of the record, or else its
key; if the key is empty too, the target is kept under its name. -/
structure Target.HasScalarId (entry : String × Value) : Prop where
  own : (entry.2.member "id").isTruthy = true → (entry.2.member "id").IsScalar
  named : entry.1 = "" → (entry.2.member "id").isTruthy = false →
    (entry.2.member "target").isTruthy = true → (entry.2.member "target").IsScalar

def Targets.HasScalarIds (v : Value) : Prop := ∀ entry ∈ v.members, Target.HasScalarId entry

/-! ### What is kept of a document -/

/-- A command has the id of its record, belongs to the group and the test that contain it unless
its record names others, and acts as its record says. -/
structure Command.KeptFrom (groupId testId : String) (entry : String × Value) (c : Command) :
    Prop where
  id : c.id = listedId entry
  groupId : c.groupId = (entry.2.member "groupId").orElse (.text groupId)
  testId : c.testId = (entry.2.member "testId").orElse (.text testId)
  target : c.target = (entry.2.member "target").orElse .empty
  method : c.method = (entry.2.member "method").orElse .empty

structure Test.KeptFrom (groupId : String) (entry : String × Value) (kept : String × Test) :
    Prop where
  key : kept.1 = entry.1
  id : kept.2.id = listedId entry
  commands : List.Forall₂ (Command.KeptFrom groupId kept.2.id) (entry.2.member "commands").members
    kept.2.commands
  distinct : (kept.2.commands.map Command.id).Nodup

structure Group.KeptFrom (entry : String × Value) (kept : String × Group) : Prop where
  key : kept.1 = entry.1
  id : kept.2.id = listedId entry
  tests : List.Forall₂ (Test.KeptFrom kept.2.id) (entry.2.member "tests").members kept.2.tests

/-- Every group, test and command of a document has its place in the suite. -/
def Suite.KeptFrom (v : Value) (s : Suite) : Prop :=
  List.Forall₂ Group.KeptFrom (v.member "groups").members s.groups

def SnippetLibrary.KeptFrom (v : Value) (library : SnippetLibrary) : Prop :=
  List.Forall₂ (Test.KeptFrom groupId) (listedTests v).members library.tests

/-! ### Readers against the grammar -/

/-- A fault of the structure of a document, as opposed to a list or an object under which nothing
can be kept. -/
def ModelFault.IsStructural : ModelFault → Prop
  | .unhashableId _ => False
  | _ => True

/-- A reader accepts what a grammar admits and keeps of it what a relation tells; it refuses
everything else by a fault of structure. -/
structure Reads {α : Type} (grammar : Prop) (kept : α → Prop) (outcome : Except ModelFault α) :
    Prop where
  accepts : grammar → ∃ a, outcome = .ok a ∧ kept a
  refuses : ¬ grammar → ∃ fault, outcome = .error fault ∧ fault.IsStructural

namespace Reads

variable {α β : Type} {P Q : Prop} {kept : α → Prop} {kept' : β → Prop}

theorem ok {a : α} (hP : P) (h : kept a) : Reads P kept (.ok a) :=
  ⟨fun _ => ⟨a, rfl, h⟩, fun hnot => absurd hP hnot⟩

theorem error {fault : ModelFault} (hP : ¬ P) (h : fault.IsStructural) :
    Reads P kept (.error fault) :=
  ⟨fun hyes => absurd hyes hP, fun _ => ⟨fault, rfl, h⟩⟩

theorem congr {outcome : Except ModelFault α} (h : Reads P kept outcome) (hiff : P ↔ Q) :
    Reads Q kept outcome := by
  rwa [propext hiff] at h

/-- More can be told of what is kept, also by the grammar that admitted the document. -/
theorem mono {outcome : Except ModelFault α} {more : α → Prop} (h : Reads P kept outcome)
    (hmore : P → ∀ a, kept a → more a) : Reads P more outcome := by
  refine ⟨fun hP => ?_, h.refuses⟩
  obtain ⟨a, ha, hkept⟩ := h.accepts hP
  exact ⟨a, ha, hmore hP a hkept⟩

/-- One reader after another: both grammars have to admit the document. -/
theorem bind {x : Except ModelFault α} {f : α → Except ModelFault β} (hx : Reads P kept x)
    (hf : ∀ a, kept a → Reads Q kept' (f a)) : Reads (P ∧ Q) kept' (x >>= f) := by
  constructor
  · rintro ⟨hP, hQ⟩
    obtain ⟨a, rfl, ha⟩ := hx.accepts hP
    exact (hf a ha).accepts hQ
  · intro hnot
    by_cases hP : P
    · obtain ⟨a, rfl, ha⟩ := hx.accepts hP
      exact (hf a ha).refuses fun hQ => hnot ⟨hP, hQ⟩
    · obtain ⟨fault, rfl, hfault⟩ := hx.refuses hP
      exact ⟨fault, rfl, hfault⟩

/-- What is made of the result of a reader. -/
theorem map {x : Except ModelFault α} {f : α → β} (hx : Reads P kept x)
    (hf : ∀ a, kept a → kept' (f a)) : Reads P kept' (x >>= fun a => pure (f a)) :=
  (hx.bind fun a ha => ok trivial (hf a ha)).congr (iff_of_eq (and_true P))

theorem mapM {γ : Type} {f : γ → Except ModelFault β} {grammar : γ → Prop} {kept : γ → β → Prop}
    {xs : List γ} (h : ∀ x ∈ xs, Reads (grammar x) (kept x) (f x)) :
    Reads (∀ x ∈ xs, grammar x) (List.Forall₂ kept xs) (xs.mapM f) := by
  induction xs with
  | nil => exact ok (List.forall_mem_nil _) .nil
  | cons x xs ih =>
    have hrest := ih fun y hy => h y (List.mem_cons_of_mem x hy)
    rw [List.mapM_cons]
    refine ((h x List.mem_cons_self).bind fun y hy => hrest.map fun ys hys => ?_).congr ?_
    · exact .cons hy hys
    · simp

theorem exists_ok_iff {outcome : Except ModelFault α} (h : Reads P kept outcome) :
    (∃ a, outcome = .ok a) ↔ P := by
  constructor
  · rintro ⟨a, rfl⟩
    by_contra hnot
    obtain ⟨fault, hfault, -⟩ := h.refuses hnot
    cases hfault
  · intro hP
    obtain ⟨a, ha, -⟩ := h.accepts hP
    exact ⟨a, ha⟩

theorem kept_of_ok {a : α} (h : Reads P kept (.ok a)) : kept a := by
  have hP : P := h.exists_ok_iff.1 ⟨a, rfl⟩
  obtain ⟨b, hb, hkept⟩ := h.accepts hP
  obtain rfl := Except.ok.inj hb
  exact hkept

theorem structural_of_error {fault : ModelFault} (h : Reads P kept (.error fault)) :
    fault.IsStructural := by
  have hnot : ¬ P := by
    intro hP
    obtain ⟨a, ha⟩ := h.exists_ok_iff.2 hP
    cases ha
  obtain ⟨fault', hfault, hstructural⟩ := h.refuses hnot
  obtain rfl := Except.error.inj hfault
  exact hstructural

end Reads

/-! ### Level by level -/

theorem Value.reads_record (v : Value) (entity : String) :
    Reads v.IsRecord (· = v.members) (v.record entity) := by
  cases v with
  | null => exact .ok (Or.inl rfl) rfl
  | object fields => exact .ok (Or.inr ⟨fields, rfl⟩) rfl
  | _ => exact .error (by simp [IsRecord]) trivial

/-- What is read from the fields of a record is read if the value is a record. -/
theorem Reads.record {β : Type} {Q : Prop} {kept : β → Prop} {v : Value}
    {f : Fields → Except ModelFault β} (h : Reads Q kept (f v.members)) (entity : String) :
    Reads (v.IsRecord ∧ Q) kept (v.record entity >>= f) := by
  refine (v.reads_record entity).bind fun fields hfields => ?_
  rwa [hfields]

/-- The command of a record, given its fields with its id among them. -/
theorem Command.reads_ofFields (groupId testId : String) (entry : String × Value) :
    Reads (entry.2.member "params").IsRecord (KeptFrom groupId testId entry)
      (ofFields (.text groupId) (.text testId) (entry.2.members.withId entry.1)) := by
  unfold ofFields
  rw [Fields.require_withId, ok_bind, Fields.get_withId _ _ (by decide)]
  refine ((entry.2.member "params").reads_record "command params").map fun params _ => ?_
  constructor
  · rfl
  all_goals
    dsimp only
    rw [Fields.get_withId _ _ (by decide)]
    rfl

theorem Command.reads_listed (groupId testId : String) (entry : String × Value) :
    Reads (IsDocument entry.2) (KeptFrom groupId testId entry)
      (entry.2.record "command" >>= fun fields =>
        ofFields (.text groupId) (.text testId) (fields.withId entry.1)) :=
  ((reads_ofFields groupId testId entry).record "command").congr
    ⟨fun h => ⟨h.1, h.2⟩, fun h => ⟨h.1, h.2⟩⟩

/-- The commands are read one after another, each with the ids of those before it in `seen`. -/
theorem Test.reads_readCommands (groupId testId : String) (seen : List String) (fields : Fields) :
    Reads ((∀ entry ∈ fields, Command.IsDocument entry.2) ∧ (fields.map listedId).Nodup ∧
        ∀ entry ∈ fields, listedId entry ∉ seen)
      (List.Forall₂ (Command.KeptFrom groupId testId) fields)
      (readCommands (.text groupId) testId seen fields) := by
  induction fields generalizing seen with
  | nil => exact .ok (by simp) .nil
  | cons entry fields ih =>
    rw [readCommands, ← bind_assoc]
    have hrest : ∀ c, Command.KeptFrom groupId testId entry c →
        Reads (listedId entry ∉ seen ∧ (∀ entry ∈ fields, Command.IsDocument entry.2) ∧
            (fields.map listedId).Nodup ∧
            ∀ entry' ∈ fields, listedId entry' ∉ listedId entry :: seen)
          (List.Forall₂ (Command.KeptFrom groupId testId) (entry :: fields))
          (do
            if seen.contains c.id then throw (.duplicateCommand c.id testId)
            let commands ← readCommands (.text groupId) testId (c.id :: seen) fields
            return c :: commands) := by
      intro c hc
      rw [hc.id]
      by_cases hseen : listedId entry ∈ seen
      · rw [if_pos (by simpa using hseen)]
        exact .error (fun h => h.1 hseen) trivial
      · rw [if_neg (by simpa using hseen)]
        refine ((ih _).map fun commands hcommands => ?_).congr ?_
        · exact .cons hc hcommands
        · simp [hseen]
    refine ((Command.reads_listed groupId testId entry).bind hrest).congr ?_
    -- an id that is new among the ids before it is new to all records
    rw [List.forall_mem_cons, List.map_cons, List.nodup_cons, List.forall_mem_cons]
    have hnew : (∀ entry' ∈ fields, listedId entry' ∉ listedId entry :: seen) ↔
        listedId entry ∉ fields.map listedId ∧ ∀ entry' ∈ fields, listedId entry' ∉ seen := by
      simp only [List.mem_cons, not_or, List.mem_map, not_exists, not_and]
      exact forall₂_and
    rw [hnew]
    tauto

/-- What corresponding members of two lists have in common, the lists do. -/
theorem map_eq_map_of_forall₂ {α β γ : Type} {R : α → β → Prop} {xs : List α} {ys : List β}
    {f : β → γ} {g : α → γ} (h : List.Forall₂ R xs ys) (hfg : ∀ x y, R x y → f y = g x) :
    ys.map f = xs.map g := by
  induction h with
  | nil => rfl
  | cons hxy _ ih => rw [List.map_cons, List.map_cons, hfg _ _ hxy, ih]

theorem Test.ids_of_keptFrom {groupId testId : String} {fields : Fields} {commands : List Command}
    (h : List.Forall₂ (Command.KeptFrom groupId testId) fields commands) :
    commands.map Command.id = fields.map listedId :=
  map_eq_map_of_forall₂ h fun _ _ hkept => hkept.id

theorem Test.reads_ofFields (groupId : String) (entry : String × Value) :
    Reads ((entry.2.member "commands").IsRecord ∧
        (∀ entry' ∈ (entry.2.member "commands").members, Command.IsDocument entry'.2) ∧
        ((entry.2.member "commands").members.map listedId).Nodup ∧
        ∀ entry' ∈ (entry.2.member "commands").members, listedId entry' ∉ [])
      (fun t => KeptFrom groupId entry (entry.1, t))
      (ofFields (.text groupId) (entry.2.members.withId entry.1)) := by
  unfold ofFields
  rw [Fields.require_withId, ok_bind, Fields.get_withId _ _ (by decide)]
  have hread := (reads_readCommands groupId (listedId entry) []
    (entry.2.member "commands").members).mono fun h commands hcommands =>
      And.intro hcommands (by
        show (commands.map Command.id).Nodup
        rw [ids_of_keptFrom hcommands]
        exact h.2.1)
  refine Reads.record ?_ "test commands"
  exact hread.map fun commands hcommands => ⟨rfl, rfl, hcommands.1, hcommands.2⟩

theorem Test.reads_listed (groupId : String) (entry : String × Value) :
    Reads (IsDocument entry.2) (fun t => KeptFrom groupId entry (entry.1, t))
      (entry.2.record "test" >>= fun fields =>
        ofFields (.text groupId) (fields.withId entry.1)) := by
  refine ((reads_ofFields groupId entry).record "test").congr ⟨?_, ?_⟩
  · rintro ⟨hrecord, hcommands, heach, hdistinct, -⟩
    exact ⟨hrecord, hcommands, heach, hdistinct⟩
  · rintro ⟨hrecord, hcommands, heach, hdistinct⟩
    exact ⟨hrecord, hcommands, heach, hdistinct, fun _ _ => List.not_mem_nil⟩

theorem Test.readAll_eq_mapM (groupId : String) (fields : Fields) :
    readAll groupId fields = fields.mapM fun entry => do
      let members ← entry.2.record "test"
      let t ← ofFields (.text groupId) (members.withId entry.1)
      return (entry.1, t) := by
  induction fields with
  | nil => rfl
  | cons entry fields ih =>
    rw [readAll, List.mapM_cons, ih]
    simp only [bind_assoc, pure_bind]

theorem Test.reads_allOfValue (groupId : String) (v : Value) :
    Reads (AreDocuments v) (List.Forall₂ (KeptFrom groupId) v.members)
      (allOfValue groupId v) := by
  have hall : Reads (∀ entry ∈ v.members, IsDocument entry.2)
      (List.Forall₂ (KeptFrom groupId) v.members) (readAll groupId v.members) := by
    rw [readAll_eq_mapM]
    refine Reads.mapM fun entry _ => ?_
    rw [← bind_assoc]
    exact (reads_listed groupId entry).map fun t ht => ht
  exact (hall.record "tests").congr ⟨fun h => ⟨h.1, h.2⟩, fun h => ⟨h.1, h.2⟩⟩

theorem Group.reads_listed (entry : String × Value) :
    Reads (IsDocument entry.2) (fun group => KeptFrom entry (entry.1, group))
      (entry.2.record "group" >>= fun fields => ofFields (fields.withId entry.1)) := by
  have hread : Reads (Test.AreDocuments (entry.2.member "tests"))
      (fun group => KeptFrom entry (entry.1, group)) (ofFields (entry.2.members.withId entry.1)) := by
    unfold ofFields
    rw [Fields.require_withId, ok_bind, Fields.get_withId _ _ (by decide)]
    exact (Test.reads_allOfValue (listedId entry) _).map fun tests htests => ⟨rfl, rfl, htests⟩
  exact (hread.record "group").congr ⟨fun h => ⟨h.1, h.2⟩, fun h => ⟨h.1, h.2⟩⟩

theorem Group.readAll_eq_mapM (fields : Fields) :
    readAll fields = fields.mapM fun entry => do
      let members ← entry.2.record "group"
      let group ← ofFields (members.withId entry.1)
      return (entry.1, group) := by
  induction fields with
  | nil => rfl
  | cons entry fields ih =>
    rw [readAll, List.mapM_cons, ih]
    simp only [bind_assoc, pure_bind]

theorem Group.reads_readAll (fields : Fields) :
    Reads (∀ entry ∈ fields, IsDocument entry.2) (List.Forall₂ KeptFrom fields)
      (readAll fields) := by
  rw [readAll_eq_mapM]
  refine Reads.mapM fun entry _ => ?_
  rw [← bind_assoc]
  exact (reads_listed entry).map fun group hgroup => hgroup

/-! ### Targets -/

theorem Target.reads_ofField {entry : String × Value} (h : HasScalarId entry) :
    Reads ((∃ selector, entry.2 = .text selector) ∨ entry.2.IsRecord) (fun t => t.id.IsScalar)
      (ofField entry.1 entry.2) := by
  obtain ⟨key, v⟩ := entry
  cases v with
  | null => exact .ok (Or.inr (Or.inl rfl)) trivial
  | text selector => exact .ok (Or.inl ⟨selector, rfl⟩) trivial
  | object fields =>
    refine .ok (Or.inr (Or.inr ⟨fields, rfl⟩)) ?_
    change (((Fields.get fields "id").orElse (.text key)).orElse
      ((Fields.get fields "target").orElse .empty)).IsScalar
    unfold Value.orElse
    -- its own id, else the key, else the name
    cases hown : (Fields.get fields "id").isTruthy with
    | true =>
      simp only [hown, if_true]
      exact h.own hown
    | false =>
      by_cases hkey : key = ""
      · cases hname : (Fields.get fields "target").isTruthy with
        | true =>
          simp only [hkey, Value.isTruthy, Bool.false_eq_true, if_false, ne_eq, not_true,
            decide_false, if_true]
          exact h.named hkey hown hname
        | false => simp [hkey, Value.isTruthy, Value.empty, Value.IsScalar]
      · simp [hkey, Value.isTruthy, Value.IsScalar]
  | _ => exact .error (by simp [Value.IsRecord]) trivial

/-- Targets are kept one after another, each under a scalar. -/
theorem Targets.reads_addFields {fields : Fields}
    (h : ∀ entry ∈ fields, Target.HasScalarId entry) (targets : Targets) :
    Reads (∀ entry ∈ fields, (∃ selector, entry.2 = .text selector) ∨ entry.2.IsRecord)
      (fun _ => True) (addFields targets fields) := by
  induction fields generalizing targets with
  | nil => exact .ok (List.forall_mem_nil _) trivial
  | cons entry fields ih =>
    rw [List.forall_mem_cons] at h
    rw [addFields, List.forall_mem_cons]
    refine (Target.reads_ofField h.1).bind fun t ht => ?_
    rw [← Value.isSome_key?_iff, ← Option.not_isNone, Bool.not_eq_true'] at ht
    rw [ht]
    exact ih h.2 _

theorem Targets.reads_ofValue {v : Value} (h : HasScalarIds v) :
    Reads (IsDocument v) (fun _ => True) (ofValue v) :=
  ((reads_addFields h []).record "targets").congr ⟨fun h => ⟨h.1, h.2⟩, fun h => ⟨h.1, h.2⟩⟩

/-! ### Suites and libraries -/

theorem Suite.reads_ofValue {v : Value} (h : Targets.HasScalarIds (v.member "targets")) :
    Reads (IsDocument v) (KeptFrom v) (ofValue v) := by
  have hread : Reads (((v.member "groups").IsRecord ∧
      ∀ entry ∈ (v.member "groups").members, Group.IsDocument entry.2) ∧
      Targets.IsDocument (v.member "targets")) (KeptFrom v) (do
        let groups ← (v.member "groups").record "suite groups" >>= Group.readAll
        let targets ← Targets.ofValue (v.member "targets")
        return { title := (v.member "title").orElse .empty, targets, groups }) := by
    refine ((Group.reads_readAll _).record "suite groups").bind fun groups hgroups => ?_
    exact (Targets.reads_ofValue h).map fun _ _ => hgroups
  simp only [bind_assoc] at hread
  exact (hread.record "suite").congr
    ⟨fun h => ⟨h.1, h.2.1.1, h.2.1.2, h.2.2⟩, fun h => ⟨h.1, ⟨h.2, h.3⟩, h.4⟩⟩

theorem SnippetLibrary.reads_ofValue {v : Value} (h : Targets.HasScalarIds (v.member "targets")) :
    Reads (IsDocument v) (KeptFrom v) (ofValue v) := by
  have hlisted := Test.reads_allOfValue groupId (listedTests v)
  have htargets : ∀ tests, List.Forall₂ (Test.KeptFrom groupId) (listedTests v).members tests →
      Reads (Targets.IsDocument (v.member "targets")) (KeptFrom v) (do
        let targets ← Targets.ofValue (v.member "targets")
        return { targets, tests }) :=
    fun tests htests => (Targets.reads_ofValue h).map fun _ _ => htests
  unfold ofValue
  cases hown : v.members.get? "tests" with
  | some tests =>
    have hv : listedTests v = tests := by simp [listedTests, hown]
    rw [hv] at hlisted htargets
    refine Reads.congr (P := v.IsRecord ∧ Test.AreDocuments tests ∧
      Targets.IsDocument (v.member "targets")) (Reads.record ?_ "snippets") ⟨?_, ?_⟩
    · simp only [hown]
      exact hlisted.bind htargets
    · rintro ⟨hrecord, htests, hdeclared⟩
      exact ⟨hrecord, by simp [hown], hv ▸ htests, hdeclared⟩
    · rintro ⟨hrecord, -, htests, hdeclared⟩
      exact ⟨hrecord, hv ▸ htests, hdeclared⟩
  | none =>
    have hv : listedTests v = ((v.member "groups").member groupId).member "tests" := by
      simp [listedTests, hown]
    rw [hv] at hlisted htargets
    refine Reads.congr (P := v.IsRecord ∧ (v.member "groups").IsRecord ∧
      ((v.member "groups").member groupId).IsRecord ∧
      Test.AreDocuments (((v.member "groups").member groupId).member "tests") ∧
      Targets.IsDocument (v.member "targets")) (Reads.record ?_ "snippets") ⟨?_, ?_⟩
    · simp only [hown]
      exact ((hlisted.bind htargets).record "snippet group").record "snippet groups"
    · rintro ⟨hrecord, hgroups, hgroup, htests, hdeclared⟩
      exact ⟨hrecord, fun _ => ⟨hgroups, hgroup⟩, hv ▸ htests, hdeclared⟩
    · rintro ⟨hrecord, hgroups, htests, hdeclared⟩
      exact ⟨hrecord, (hgroups hown).1, (hgroups hown).2, hv ▸ htests, hdeclared⟩

/-! ### Documents of suites -/

/-- **Which values are documents of suites.**  If the targets can be kept under their ids, a value
is accepted if and only if the grammar admits it.  Any other is refused by a fault of structure.
The suite of a document has its groups and tests under their keys, and in every test one command
for each record, in order, with ids that differ. -/
theorem Suite.ofValue_accepts_documents {v : Value}
    (hids : Targets.HasScalarIds (v.member "targets")) :
    ((∃ s, ofValue v = .ok s) ↔ IsDocument v) ∧
      (¬ IsDocument v → ∃ fault, ofValue v = .error fault ∧ fault.IsStructural) ∧
      ∀ s, ofValue v = .ok s → KeptFrom v s := by
  have hread := reads_ofValue hids
  exact ⟨hread.exists_ok_iff, hread.refuses, fun s hs => (hs ▸ hread).kept_of_ok⟩

/-- A document whose group has null for an id, and whose commands take theirs from a key and from
a number. -/
def cartDocument (secondId : Int) : Value :=
  .object [
    ("targets", .object [("BUY", .text "#buy"), ("", .object [("id", .int 7)])]),
    ("groups", .object [("g", .object [
      ("id", .null),
      ("tests", .object [("t", .object [
        ("commands", .object [
          ("1", .object [("groupId", .text "h")]),
          ("a", .object [("id", .int secondId)])])])])])])]

theorem hasScalarIds_cartDocument (secondId : Int) :
    Targets.HasScalarIds ((cartDocument secondId).member "targets") := by
  intro entry hentry
  rcases List.mem_pair.1 hentry with rfl | rfl
  · exact ⟨nofun, nofun⟩
  · exact ⟨fun _ => trivial, fun _ _ => nofun⟩

/-- The ids 1 and 2 are two; a second 1 would be one with the key "1". -/
theorem documents_of_cart :
    (∃ s, Suite.ofValue (cartDocument 2) = .ok s ∧ Suite.KeptFrom (cartDocument 2) s) ∧
      ∃ fault, Suite.ofValue (cartDocument 1) = .error fault ∧ fault.IsStructural := by
  obtain ⟨haccepts, -, hkept⟩ := Suite.ofValue_accepts_documents (hasScalarIds_cartDocument 2)
  obtain ⟨-, hrefuses, -⟩ := Suite.ofValue_accepts_documents (hasScalarIds_cartDocument 1)
  constructor
  · have hdocument : Suite.IsDocument (cartDocument 2) := by
      refine ⟨Or.inr ⟨_, rfl⟩, Or.inr ⟨_, rfl⟩, ?_, Or.inr ⟨_, rfl⟩, ?_⟩
      · intro group hgroup
        obtain rfl := List.mem_singleton.1 hgroup
        refine ⟨Or.inr ⟨_, rfl⟩, Or.inr ⟨_, rfl⟩, ?_⟩
        intro test htest
        obtain rfl := List.mem_singleton.1 htest
        refine ⟨Or.inr ⟨_, rfl⟩, Or.inr ⟨_, rfl⟩, ?_, by decide⟩
        intro command hcommand
        rcases List.mem_pair.1 hcommand with rfl | rfl
        · exact ⟨Or.inr ⟨_, rfl⟩, Or.inl rfl⟩
        · exact ⟨Or.inr ⟨_, rfl⟩, Or.inl rfl⟩
      · intro target htarget
        rcases List.mem_pair.1 htarget with rfl | rfl
        · exact Or.inl ⟨_, rfl⟩
        · exact Or.inr (Or.inr ⟨_, rfl⟩)
    obtain ⟨s, hs⟩ := haccepts.2 hdocument
    exact ⟨s, hs, hkept s hs⟩
  · apply hrefuses
    intro hdocument
    have htest := ((hdocument.each _ List.mem_cons_self).tests.each _ List.mem_cons_self).distinct
    exact absurd htest (by decide)

/-- A document that lists a target without an id of its own under the empty key, with a list for
a name. -/
def listNamedDocument : Value :=
  .object [("targets", .object [("", .object [("target", .list [.text "BUY"])])])]

/-- Scalars for the ids that records give do not suffice: the target is kept under its name. -/
theorem document_with_list_for_name_is_refused :
    Suite.IsDocument listNamedDocument ∧
      (∀ entry ∈ (listNamedDocument.member "targets").members,
        (entry.2.member "id").isTruthy = true → (entry.2.member "id").IsScalar) ∧
      Suite.ofValue listNamedDocument = .error (.unhashableId .list) := by
  refine ⟨?_, ?_, rfl⟩
  · refine ⟨Or.inr ⟨_, rfl⟩, Or.inl rfl, List.forall_mem_nil _, Or.inr ⟨_, rfl⟩, ?_⟩
    intro entry hentry
    obtain rfl := List.mem_singleton.1 hentry
    exact Or.inr (Or.inr ⟨_, rfl⟩)
  · intro entry hentry
    obtain rfl := List.mem_singleton.1 hentry
    nofun

end SuiteCompiler
