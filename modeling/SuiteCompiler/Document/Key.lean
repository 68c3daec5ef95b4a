/-
  SuiteCompiler/Document/Key.lean
  ===============================
  Values as keys.  Two keys are the same if they are equal as numbers or as texts:
  one, one point nought and true are one key, and the text "1" is another.  Lists
  and objects are no keys.  A dictionary keeps its entries in the order in which
  their keys first came.

  Setting a key gives it its entry (`Dict.get?_set_of_sameKey`) and no other key a
  new one (`Dict.get?_set_of_not_sameKey`).
-/
import SuiteCompiler.Document.Value

namespace SuiteCompiler

open Number (Double)

/-- What a key is compared by. -/
inductive Key where
  | null
  | text (s : String)
  | whole (n : Int)
  | float (x : Double)
  deriving DecidableEq, Repr

namespace Value

/-- What a value is compared by as a key; lists and objects are none. -/
def key? : Value → Option Key
  | .null => some .null
  | .bool b => some (.whole (if b then 1 else 0))
  | .int n => some (.whole n)
  | .float x =>
    match x.integer? with
    | some n => some (.whole n)
    | none => some (.float x)
  | .text s => some (.text s)
  | .list _ => none
  | .object _ => none

/-- Whether two values are the same key. -/
def sameKey (a b : Value) : Bool := a.key?.isSome && a.key? == b.key?

theorem sameKey_comm (a b : Value) : a.sameKey b = b.sameKey a := by
  unfold sameKey
  cases a.key? <;> cases b.key? <;> simp [Bool.beq_comm]

theorem sameKey_iff {a b : Value} :
    a.sameKey b = true ↔ ∃ k, a.key? = some k ∧ b.key? = some k := by
  unfold sameKey
  cases ha : a.key? with
  | none => simp
  | some k =>
    cases hb : b.key? with
    | none => simp
    | some k' =>
      constructor
      · intro h
        have : k = k' := by simpa using h
        exact ⟨k, rfl, this ▸ rfl⟩
      · rintro ⟨k'', hk, hk'⟩
        simp_all

theorem sameKey_trans {a b c : Value} (hab : a.sameKey b = true) (hbc : b.sameKey c = true) :
    a.sameKey c = true := by
  obtain ⟨k, ha, hb⟩ := sameKey_iff.1 hab
  obtain ⟨k', hb', hc⟩ := sameKey_iff.1 hbc
  exact sameKey_iff.2 ⟨k, ha, by simp_all⟩

theorem sameKey_text (s t : String) : (Value.text s).sameKey (.text t) = decide (s = t) := by
  rw [Bool.eq_iff_iff]
  simp [sameKey, key?]

end Value

/-- A dictionary: its entries in the order in which their keys first came. -/
abbrev Dict (α : Type) := List (Value × α)

namespace Dict

variable {α : Type}

/-- The entry of a key. -/
def get? (key : Value) : Dict α → Option α
  | [] => none
  | (k, a) :: rest => if k.sameKey key then some a else get? key rest

/-- Sets the entry of a key: it keeps its place, and its key, if it was there. -/
def set (key : Value) (a : α) : Dict α → Dict α
  | [] => [(key, a)]
  | (k, b) :: rest => if k.sameKey key then (k, a) :: rest else (k, b) :: set key a rest

/-- A key that is set has its entry. -/
theorem get?_set_of_sameKey {key other : Value} (h : key.sameKey other = true) (a : α)
    (d : Dict α) : get? other (set key a d) = some a := by
  induction d with
  | nil => simp [set, get?, h]
  | cons entry d ih =>
    obtain ⟨k, b⟩ := entry
    by_cases hk : k.sameKey key = true
    · simp [set, get?, hk, Value.sameKey_trans hk h]
    · have ho : k.sameKey other = false := by
        cases hko : k.sameKey other with
        | false => rfl
        | true => exact absurd (Value.sameKey_trans hko (Value.sameKey_comm key other ▸ h)) hk
      simp [set, get?, hk, ho, ih]

/-- Setting a key leaves the others as they are. -/
theorem get?_set_of_not_sameKey {key other : Value} (h : key.sameKey other = false) (a : α)
    (d : Dict α) : get? other (set key a d) = get? other d := by
  induction d with
  | nil => simp [set, get?, h]
  | cons entry d ih =>
    obtain ⟨k, b⟩ := entry
    by_cases hk : k.sameKey key = true
    · have ho : k.sameKey other = false := by
        cases hko : k.sameKey other with
        | false => rfl
        | true =>
          have := Value.sameKey_trans (Value.sameKey_comm k key ▸ hk) hko
          simp_all
      simp [set, get?, hk, ho]
    · simp [set, get?, hk, ih]

end Dict

end SuiteCompiler
