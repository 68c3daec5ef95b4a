/-
  SuiteCompiler/Proofs/Dictionaries.lean
  ======================================
  Dictionaries that are filled one entry after another.

  The targets of a document and the selectors of a suite are both kept so.  A key that
  comes again keeps its place and gets the new entry.  So the last entry of a key
  decides what is found under it (`get?_setAll`), an entry stays if and only if its key
  does not come again (`mem_values_setAll_iff`), and the keys stand in the order in
  which they first came (`keys_setAll`).
-/
import Mathlib.Data.List.Induction
import SuiteCompiler.Proofs.Grammar

namespace SuiteCompiler

namespace Value

theorem sameKey_self_iff {v : Value} : v.sameKey v = true ↔ v.IsScalar := by
  rw [← isSome_key?_iff]
  simp [sameKey]

end Value

namespace Dict

variable {α : Type}

/-- Sets entries one after another. -/
def setAll (entries : List (Value × α)) (d : Dict α) : Dict α :=
  entries.foldl (fun d entry => set entry.1 entry.2 d) d

/-- No two entries have the same key. -/
def Distinct (d : Dict α) : Prop := d.Pairwise fun a b => a.1.sameKey b.1 = false

theorem setAll_append (entries entries' : List (Value × α)) (d : Dict α) :
    setAll (entries ++ entries') d = setAll entries' (setAll entries d) :=
  List.foldl_append

/-! ### What is found -/

theorem get?_setAll (key : Value) (entries : List (Value × α)) (d : Dict α) :
    get? key (setAll entries d) =
      ((entries.findRev? (·.1.sameKey key)).map (·.2)).or (get? key d) := by
  rw [List.findRev?_eq_find?_reverse]
  induction entries generalizing d with
  | nil => rfl
  | cons entry entries ih =>
    change get? key (setAll entries (set entry.1 entry.2 d)) = _
    rw [ih, List.reverse_cons, List.find?_append, List.find?_singleton]
    -- an entry that comes later decides, whatever this one does
    cases entries.reverse.find? (·.1.sameKey key) with
    | some later => rfl
    | none =>
      cases h : entry.1.sameKey key with
      | true => simp [get?_set_of_sameKey h]
      | false => simp [get?_set_of_not_sameKey h]

theorem mem_of_get? {key : Value} {d : Dict α} {a : α} (h : get? key d = some a) :
    ∃ k, (k, a) ∈ d ∧ k.sameKey key = true := by
  induction d with
  | nil => cases h
  | cons entry d ih =>
    obtain ⟨k, b⟩ := entry
    by_cases hk : k.sameKey key = true
    · simp only [get?, hk, if_true, Option.some.injEq] at h
      subst h
      exact ⟨k, List.mem_cons_self, hk⟩
    · simp only [get?, hk, Bool.false_eq_true, if_false] at h
      obtain ⟨k', hmem, hk'⟩ := ih h
      exact ⟨k', List.mem_cons_of_mem _ hmem, hk'⟩

theorem get?_of_mem {key : Value} {d : Dict α} {a : α} (hd : Distinct d) (hkey : key.IsScalar)
    (h : (key, a) ∈ d) : get? key d = some a := by
  induction d with
  | nil => cases h
  | cons entry d ih =>
    obtain ⟨hentry, hd⟩ := List.pairwise_cons.1 hd
    rcases List.mem_cons.1 h with rfl | h
    · simp [get?, Value.sameKey_self_iff.2 hkey]
    · have hne : entry.1.sameKey key = false := hentry _ h
      simp [get?, hne, ih hd h]

/-! ### Keys -/

theorem keys_set (key : Value) (a : α) (d : Dict α) :
    (set key a d).map (·.1) =
      if d.any (·.1.sameKey key) then d.map (·.1) else d.map (·.1) ++ [key] := by
  induction d with
  | nil => rfl
  | cons entry d ih =>
    by_cases hk : entry.1.sameKey key = true
    · simp [set, hk]
    · simp only [set, hk, Bool.false_eq_true, if_false, List.map_cons, ih, List.any_cons,
        Bool.false_or]
      split <;> rfl

theorem mem_keys_of_mem_set {key : Value} {a : α} {d : Dict α} {entry : Value × α}
    (h : entry ∈ set key a d) : entry.1 = key ∨ entry.1 ∈ d.map (·.1) := by
  have hmem : entry.1 ∈ (set key a d).map (·.1) := List.mem_map_of_mem h
  rw [keys_set] at hmem
  split at hmem
  · exact Or.inr hmem
  · rcases List.mem_append.1 hmem with hmem | hmem
    · exact Or.inr hmem
    · exact Or.inl (List.mem_singleton.1 hmem)

theorem distinct_set {key : Value} {a : α} {d : Dict α} (hd : Distinct d) :
    Distinct (set key a d) := by
  induction d with
  | nil => exact List.pairwise_singleton _ _
  | cons entry d ih =>
    obtain ⟨hentry, hd⟩ := List.pairwise_cons.1 hd
    by_cases hk : entry.1.sameKey key = true
    · rw [set, if_pos hk]
      exact List.pairwise_cons.2 ⟨hentry, hd⟩
    · rw [set, if_neg hk]
      refine List.pairwise_cons.2 ⟨?_, ih hd⟩
      intro other hother
      rcases mem_keys_of_mem_set hother with hother | hother
      · simpa [hother] using hk
      · obtain ⟨old, hold, hother⟩ := List.mem_map.1 hother
        rw [← hother]
        exact hentry old hold

theorem distinct_setAll {entries : List (Value × α)} {d : Dict α} (hd : Distinct d) :
    Distinct (setAll entries d) := by
  induction entries generalizing d with
  | nil => exact hd
  | cons entry entries ih => exact ih (distinct_set hd)

theorem isScalar_of_mem_setAll {entries : List (Value × α)} {d : Dict α}
    (hentries : ∀ entry ∈ entries, entry.1.IsScalar) (hd : ∀ entry ∈ d, entry.1.IsScalar) :
    ∀ entry ∈ setAll entries d, entry.1.IsScalar := by
  induction entries generalizing d with
  | nil => exact hd
  | cons entry entries ih =>
    rw [List.forall_mem_cons] at hentries
    refine ih hentries.2 ?_
    intro other hother
    rcases mem_keys_of_mem_set hother with hother | hother
    · rw [hother]
      exact hentries.1
    · obtain ⟨old, hold, hother⟩ := List.mem_map.1 hother
      rw [← hother]
      exact hd old hold

theorem nodup_keys {d : Dict α} (hd : Distinct d) (hscalar : ∀ entry ∈ d, entry.1.IsScalar) :
    (d.map (·.1)).Nodup := by
  refine List.pairwise_map.2 (hd.imp_of_mem ?_)
  intro entry other hentry _ hapart hsame
  rw [← hsame, Value.sameKey_self_iff.2 (hscalar entry hentry)] at hapart
  cases hapart

/-- The keys of texts stand in the order in which they first came. -/
theorem keys_setAll {entries : List (Value × α)}
    (htexts : ∀ entry ∈ entries, ∃ name, entry.1 = .text name) :
    (setAll entries []).map (·.1) = (entries.map (·.1)).eraseDups := by
  -- on the last entry, which adds its key if the key is new
  induction entries using List.reverseRecOn with
  | nil => rfl
  | append_singleton entries entry ih =>
    rw [List.forall_mem_append, List.forall_mem_singleton] at htexts
    obtain ⟨hentries, name, hname⟩ := htexts
    have hkeys := ih hentries
    have hany : (setAll entries []).any (·.1.sameKey entry.1) =
        decide (entry.1 ∈ entries.map (·.1)) := by
      rw [Bool.eq_iff_iff, List.any_eq_true, decide_eq_true_iff, ← List.mem_eraseDups, ← hkeys,
        List.mem_map]
      refine exists_congr fun other => and_congr_right fun hother => ?_
      have htext : other.1 ∈ entries.map (·.1) := by
        rw [← List.mem_eraseDups, ← hkeys]
        exact List.mem_map_of_mem hother
      obtain ⟨first, hfirst, hsame⟩ := List.mem_map.1 htext
      obtain ⟨text, htext⟩ := hentries first hfirst
      rw [← hsame, htext, hname, Value.sameKey_text]
      simp
    rw [setAll_append, List.map_append, List.eraseDups_append]
    change (set entry.1 entry.2 (setAll entries [])).map (·.1) = _
    rw [keys_set, hany, hkeys]
    by_cases hmem : entry.1 ∈ entries.map (·.1)
    · simp [List.removeAll, hmem]
    · simp [List.removeAll, hmem, List.eraseDups_cons]

/-! ### Entries that stay -/

/-- An entry stays if and only if its key does not come again. -/
theorem mem_values_setAll_iff {entries : List (Value × α)}
    (hscalar : ∀ entry ∈ entries, entry.1.IsScalar) {a : α} :
    a ∈ (setAll entries []).map (·.2) ↔
      ∃ before key after, entries = before ++ (key, a) :: after ∧
        ∀ later ∈ after, later.1.sameKey key = false := by
  constructor
  · intro h
    obtain ⟨⟨key, b⟩, hmem, rfl⟩ := List.mem_map.1 h
    have hkey : key.IsScalar := isScalar_of_mem_setAll hscalar (List.forall_mem_nil _) _ hmem
    have hget : get? key (setAll entries []) = some b :=
      get?_of_mem (distinct_setAll List.Pairwise.nil) hkey hmem
    rw [get?_setAll, List.findRev?_eq_find?_reverse] at hget
    have hlast : (entries.reverse.find? (·.1.sameKey key)).map (·.2) = some b := by
      simpa [get?] using hget
    obtain ⟨⟨key', b'⟩, hfind, rfl⟩ := Option.map_eq_some_iff.1 hlast
    obtain ⟨hsame, after, before, hentries, hafter⟩ := List.find?_eq_some_iff_append.1 hfind
    refine ⟨before.reverse, key', after.reverse, ?_, ?_⟩
    · rw [← List.reverse_reverse entries, hentries]
      simp
    · intro later hlater
      have hother := hafter later (List.mem_reverse.1 hlater)
      by_contra hagain
      rw [Bool.not_eq_false] at hagain
      simp [Value.sameKey_trans hagain hsame] at hother
  · rintro ⟨before, key, after, rfl, hafter⟩
    have hkey : key.IsScalar := hscalar _ (List.mem_append_right _ List.mem_cons_self)
    have hlater : after.findRev? (·.1.sameKey key) = none := by
      rw [List.findRev?_eq_find?_reverse, List.find?_eq_none]
      intro later h
      simp [hafter later (List.mem_reverse.1 h)]
    have hget : get? key (setAll (before ++ (key, a) :: after) []) = some a := by
      rw [setAll_append]
      change get? key (setAll after (set key a (setAll before []))) = some a
      rw [get?_setAll, hlater, get?_set_of_sameKey (Value.sameKey_self_iff.2 hkey)]
      rfl
    obtain ⟨k, hmem, -⟩ := mem_of_get? hget
    exact List.mem_map_of_mem (f := (·.2)) hmem

theorem set_of_not_mem {key : Value} {a : α} {d : Dict α}
    (h : ∀ entry ∈ d, entry.1.sameKey key = false) : set key a d = d ++ [(key, a)] := by
  induction d with
  | nil => rfl
  | cons entry d ih =>
    rw [List.forall_mem_cons] at h
    simp [set, h.1, ih h.2]

/-- Entries whose keys differ stay in their places. -/
theorem setAll_of_distinct {entries d : Dict α} (h : Distinct (d ++ entries)) :
    setAll entries d = d ++ entries := by
  induction entries generalizing d with
  | nil => exact (List.append_nil d).symm
  | cons entry entries ih =>
    have hset : set entry.1 entry.2 d = d ++ [entry] := by
      refine set_of_not_mem fun other hother => ?_
      exact (List.pairwise_append.1 h).2.2 other hother entry List.mem_cons_self
    change setAll entries (set entry.1 entry.2 d) = _
    rw [hset, ih]
    · simp
    · simpa using h

end Dict

end SuiteCompiler
