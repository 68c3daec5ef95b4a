/-
  SuiteCompiler/Proofs/TargetIds.lean
  ===================================
  Which entries of a document of targets are kept.

  A document lists targets in two layouts, and both may stand in one document.  Each
  target is kept under an id: that of its record, or else its key, or else its name.
  Nothing keeps two entries from having one id, and then the later one takes the place of
  the earlier one.  So an entry stays if and only if no later one has its id
  (`mem_values_iff`), and a document loses no target if and only if every target it
  describes is described by an entry that stays (`keeps_all_iff`).
-/
import SuiteCompiler.Proofs.Dictionaries

namespace SuiteCompiler

open Outcome

namespace Target

/-- What an entry says of a target that can be declared: its key and its text are name and
selector, or the fields of its record are. -/
inductive Describes : String × Value → Value → Value → Prop
  | short {name selector : String} (hname : name ≠ "") (hselector : selector ≠ "") :
      Describes (name, .text selector) (.text name) (.text selector)
  | record {key : String} {fields : Fields} (hname : (fields.get "target").isTruthy = true)
      (hselector : (fields.get "selector").isTruthy = true) :
      Describes (key, .object fields) (fields.get "target") (fields.get "selector")

/-- The id under which an entry is kept. -/
def keptUnder (entry : String × Value) : Value :=
  ((entry.2.member "id").orElse (.text entry.1)).orElse ((entry.2.member "target").orElse .empty)

/-- The target that an entry lists. -/
def listed : String × Value → Target
  | (key, .null) => make (.text key) .empty .empty
  | (key, .text selector) => make (.text key) (.text selector) .empty
  | (key, v) => make ((v.member "target").orElse .empty) ((v.member "selector").orElse .empty)
      ((v.member "id").orElse (.text key))

theorem eq_listed_of_ofField {entry : String × Value} {t : Target}
    (h : ofField entry.1 entry.2 = .ok t) : t = listed entry := by
  obtain ⟨key, v⟩ := entry
  cases v with
  | null => exact (Except.ok.inj h).symm
  | text selector => exact (Except.ok.inj h).symm
  | object fields => exact (Except.ok.inj h).symm
  | _ => cases h

theorem id_listed (entry : String × Value) : (listed entry).id = keptUnder entry := by
  obtain ⟨key, v⟩ := entry
  cases v with
  | null => exact (Value.orElse_text_empty key).symm
  | text selector => exact (Value.orElse_text_empty key).symm
  | _ => rfl

/-- An entry describes a target if and only if the target that it lists can be declared. -/
theorem describes_iff {entry : String × Value} {name selector : Value} :
    Describes entry name selector ↔
      (listed entry).isDeclarable = true ∧ (listed entry).name = name ∧
        (listed entry).selector = selector := by
  obtain ⟨key, v⟩ := entry
  constructor
  · intro h
    cases h with
    | short hname hselector => simp [listed, make, isDeclarable, Value.isTruthy, hname, hselector]
    | @record _ fields hname hselector =>
      refine ⟨?_, Value.orElse_of_isTruthy hname _, Value.orElse_of_isTruthy hselector _⟩
      change (((fields.get "target").orElse .empty).isTruthy &&
        ((fields.get "selector").orElse .empty).isTruthy) = true
      rw [Value.isTruthy_orElse_empty, Value.isTruthy_orElse_empty, hname, hselector]
      rfl
  · rintro ⟨hdeclarable, rfl, rfl⟩
    rw [isDeclarable, Bool.and_eq_true] at hdeclarable
    obtain ⟨hname, hselector⟩ := hdeclarable
    cases v with
    | text s =>
      have hkey : key ≠ "" := by simpa [listed, make, Value.isTruthy] using hname
      have hs : s ≠ "" := by simpa [listed, make, Value.isTruthy] using hselector
      exact .short hkey hs
    | object fields =>
      change ((Fields.get fields "target").orElse .empty).isTruthy = true at hname
      change ((Fields.get fields "selector").orElse .empty).isTruthy = true at hselector
      rw [Value.isTruthy_orElse_empty] at hname hselector
      change Describes _ ((Fields.get fields "target").orElse .empty)
        ((Fields.get fields "selector").orElse .empty)
      rw [Value.orElse_of_isTruthy hname, Value.orElse_of_isTruthy hselector]
      exact .record hname hselector
    -- nothing else has a selector
    | _ => cases hselector

end Target

namespace Targets

/-- A target of this name and selector is among those that are kept. -/
def Holds (targets : Targets) (name selector : Value) : Prop :=
  ∃ kept ∈ targets, kept.2.name = name ∧ kept.2.selector = selector

/-- No later entry has the id of an entry. -/
def Stays (fields : Fields) (entry : String × Value) : Prop :=
  ∃ before after, fields = before ++ entry :: after ∧
    ∀ later ∈ after, (Target.keptUnder later).sameKey (Target.keptUnder entry) = false

def entries (fields : Fields) : List (Value × Target) :=
  fields.map fun entry => (Target.keptUnder entry, Target.listed entry)

/-- Adding targets sets one entry after another, each under its id. -/
theorem addFields_eq_ok {fields : Fields} {targets kept : Targets}
    (h : addFields targets fields = .ok kept) :
    (∀ entry ∈ fields, (Target.keptUnder entry).IsScalar) ∧
      kept = Dict.setAll (entries fields) targets := by
  induction fields generalizing targets with
  | nil => exact ⟨List.forall_mem_nil _, (Except.ok.inj h).symm⟩
  | cons entry fields ih =>
    obtain ⟨t, ht, h⟩ := bind_eq_ok_iff.1 h
    obtain rfl := Target.eq_listed_of_ofField ht
    rw [Target.id_listed] at h
    by_cases hid : (Target.keptUnder entry).IsScalar
    · have hkey := Value.isSome_key?_iff.2 hid
      rw [← Option.not_isNone, Bool.not_eq_true'] at hkey
      rw [hkey] at h
      obtain ⟨hscalar, hkept⟩ := ih h
      exact ⟨List.forall_mem_cons.2 ⟨hid, hscalar⟩, hkept⟩
    · rw [← Value.isSome_key?_iff, ← Option.not_isNone, Bool.not_eq_true', Bool.not_eq_false] at hid
      rw [hid] at h
      cases h

theorem eq_setAll_of_ofValue {v : Value} {targets : Targets} (h : ofValue v = .ok targets) :
    (∀ entry ∈ v.members, (Target.keptUnder entry).IsScalar) ∧
      targets = Dict.setAll (entries v.members) [] := by
  obtain ⟨fields, hfields, h⟩ := bind_eq_ok_iff.1 h
  obtain rfl : fields = v.members := (hfields ▸ v.reads_record "targets").kept_of_ok
  exact addFields_eq_ok h

theorem mem_values_iff {v : Value} {targets : Targets} (h : ofValue v = .ok targets) {t : Target} :
    t ∈ targets.map (·.2) ↔ ∃ entry, Stays v.members entry ∧ Target.listed entry = t := by
  obtain ⟨hscalar, rfl⟩ := eq_setAll_of_ofValue h
  have hkeys : ∀ entry ∈ entries v.members, entry.1.IsScalar := by
    intro entry hentry
    obtain ⟨source, hsource, rfl⟩ := List.mem_map.1 hentry
    exact hscalar source hsource
  rw [Dict.mem_values_setAll_iff hkeys]
  constructor
  · rintro ⟨before, key, after, hentries, hafter⟩
    obtain ⟨sources, rest, hfields, -, hrest⟩ := List.map_eq_append_iff.1 hentries
    obtain ⟨source, later, rfl, hsource, rfl⟩ := List.map_eq_cons_iff.1 hrest
    obtain ⟨rfl, rfl⟩ := Prod.mk.inj hsource
    refine ⟨source, ⟨sources, later, hfields, ?_⟩, rfl⟩
    intro other hother
    exact hafter _ (List.mem_map_of_mem hother)
  · rintro ⟨entry, ⟨before, after, hfields, hafter⟩, rfl⟩
    refine ⟨entries before, Target.keptUnder entry, entries after, ?_, ?_⟩
    · simp [entries, hfields]
    · intro later hlater
      obtain ⟨source, hsource, rfl⟩ := List.mem_map.1 hlater
      exact hafter source hsource

theorem holds_iff {v : Value} {targets : Targets} (h : ofValue v = .ok targets)
    {entry : String × Value} {name selector : Value}
    (hentry : Target.Describes entry name selector) :
    targets.Holds name selector ↔
      ∃ last, Stays v.members last ∧ Target.Describes last name selector := by
  rw [Target.describes_iff] at hentry
  obtain ⟨hdeclarable, rfl, rfl⟩ := hentry
  constructor
  · rintro ⟨kept, hkept, hname, hselector⟩
    obtain ⟨last, hlast, hlisted⟩ := (mem_values_iff h).1 (List.mem_map_of_mem hkept)
    refine ⟨last, hlast, Target.describes_iff.2 ?_⟩
    rw [hlisted, Target.isDeclarable, hname, hselector]
    exact ⟨hdeclarable, rfl, rfl⟩
  · rintro ⟨last, hlast, hdescribes⟩
    obtain ⟨-, hname, hselector⟩ := Target.describes_iff.1 hdescribes
    obtain ⟨kept, hkept, hlisted⟩ := List.mem_map.1 ((mem_values_iff h).2 ⟨last, hlast, rfl⟩)
    exact ⟨kept, hkept, by rw [hlisted, hname], by rw [hlisted, hselector]⟩

/-- **When no target is lost.**  Every target that a document describes is kept if and only if each
is described by an entry whose id does not come again.  All entries are kept, each in its place and
under its id, if and only if no two have one id. -/
theorem keeps_all_iff {v : Value} {targets : Targets} (h : ofValue v = .ok targets) :
    ((∀ entry ∈ v.members, ∀ name selector, Target.Describes entry name selector →
        targets.Holds name selector) ↔
      ∀ entry ∈ v.members, ∀ name selector, Target.Describes entry name selector →
        ∃ last, Stays v.members last ∧ Target.Describes last name selector) ∧
    (targets = v.members.map (fun entry => (Target.keptUnder entry, Target.listed entry)) ↔
      v.members.Pairwise fun entry later =>
        (Target.keptUnder entry).sameKey (Target.keptUnder later) = false) := by
  constructor
  · refine forall_congr' fun entry => imp_congr_right fun _ => ?_
    refine forall_congr' fun name => forall_congr' fun selector => imp_congr_right fun hentry => ?_
    exact holds_iff h hentry
  · obtain ⟨-, rfl⟩ := eq_setAll_of_ofValue h
    have hdistinct : Dict.Distinct (entries v.members) ↔ v.members.Pairwise fun entry later =>
        (Target.keptUnder entry).sameKey (Target.keptUnder later) = false := List.pairwise_map
    rw [← hdistinct]
    constructor
    · intro heq
      have hkept : Dict.Distinct (Dict.setAll (entries v.members) []) := Dict.distinct_setAll .nil
      rwa [heq] at hkept
    · exact Dict.setAll_of_distinct (d := [])

/-- A target in the one layout, and one in the other with an id of its own. -/
def bothLayouts (id : String) : Value :=
  .object [("BUY", .text "#buy"),
    ("1", .object [("id", .text id), ("target", .text "PAY"), ("selector", .text "#pay")])]

theorem targets_of_both_layouts :
    ∃ targets, ofValue (bothLayouts "2") = .ok targets ∧
      targets.map (·.1) = [.text "BUY", .text "2"] ∧
      targets.Holds (.text "BUY") (.text "#buy") ∧ targets.Holds (.text "PAY") (.text "#pay") := by
  obtain ⟨hkept, hplaces⟩ := keeps_all_iff (v := bothLayouts "2") rfl
  have hstays : ∀ entry ∈ (bothLayouts "2").members, Stays (bothLayouts "2").members entry := by
    intro entry hentry
    rcases List.mem_pair.1 hentry with rfl | rfl
    · exact ⟨[], _, rfl, by decide⟩
    · exact ⟨[_], [], rfl, List.forall_mem_nil _⟩
  have hall := hkept.2 fun entry hentry _ _ hdescribes => ⟨entry, hstays entry hentry, hdescribes⟩
  refine ⟨_, rfl, ?_, ?_, ?_⟩
  · rw [hplaces.2 (by decide)]
    rfl
  · exact hall _ List.mem_cons_self _ _ (.short (by decide) (by decide))
  · have hpay : Target.Describes
        ("1", .object [("id", .text "2"), ("target", .text "PAY"), ("selector", .text "#pay")])
        (.text "PAY") (.text "#pay") := .record rfl rfl
    exact hall _ (List.mem_cons_of_mem _ List.mem_cons_self) _ _ hpay

/-- The id of the second entry is the key of the first, and the first is lost. -/
theorem entry_is_overwritten :
    ∃ targets, ofValue (bothLayouts "BUY") = .ok targets ∧
      ("BUY", .text "#buy") ∈ (bothLayouts "BUY").members ∧
      Target.Describes ("BUY", .text "#buy") (.text "BUY") (.text "#buy") ∧
      ¬ targets.Holds (.text "BUY") (.text "#buy") := by
  refine ⟨_, rfl, List.mem_cons_self, .short (by decide) (by decide), ?_⟩
  rintro ⟨kept, hkept, hname, -⟩
  obtain rfl := List.mem_singleton.1 hkept
  exact absurd hname (by decide)

end Targets

end SuiteCompiler
