/-
  SuiteCompiler/Proofs/Json.lean
  ==============================
  The characters of JSON text.

  Whatever a value holds, its JSON text has no control characters, and in the ASCII
  layouts nothing beyond U+007E either (`allows_of_mem_jsonChars`): the rest is
  written as escapes, and these are plain.  So every value is written on one line
  (`oneLine_json`).
-/
import SuiteCompiler.Document.Writer
import SuiteCompiler.Proofs.Lines

namespace SuiteCompiler

/-! ### Plain characters -/

/-- A visible ASCII character or a blank. -/
def Plain (c : Char) : Prop := 0x20 ≤ c.toNat ∧ c.toNat ≤ 0x7E

instance (c : Char) : Decidable (Plain c) := inferInstanceAs (Decidable (_ ∧ _))

/-- All characters are plain. -/
def AllPlain (cs : List Char) : Prop := ∀ c ∈ cs, Plain c

instance (cs : List Char) : Decidable (AllPlain cs) :=
  decidable_of_iff (cs.all (Plain ·) = true) (by simp [AllPlain])

namespace Number

theorem plain_digits (n : Nat) : AllPlain (digits n) := by
  intro c hc
  have hdigit := Nat.isDigit_of_mem_toDigits (by decide) (by decide) hc
  rw [Char.isDigit, Bool.and_eq_true, decide_eq_true_eq, decide_eq_true_eq] at hdigit
  have hlow : 48 ≤ c.toNat := hdigit.1
  have hhigh : c.toNat ≤ 57 := hdigit.2
  exact ⟨by omega, by omega⟩

theorem plain_decimal (n : Int) : AllPlain (decimal n) := by
  cases n with
  | ofNat n => exact plain_digits n
  | negSucc n =>
    intro c hc
    rcases List.mem_cons.1 hc with rfl | hc
    · decide
    · exact plain_digits (n + 1) c hc

theorem plain_shortestDigits (significand : Nat) (exponent : Int) :
    AllPlain (shortestDigits significand exponent).1 := by
  intro c hc
  simp only [shortestDigits, Text.dropEndWhile, List.mem_reverse] at hc
  exact plain_digits _ c (List.mem_reverse.1 ((List.dropWhile_suffix _).subset hc))

theorem plain_positional {ds : List Char} (h : AllPlain ds) (point : Int) :
    AllPlain (positional ds point) := by
  intro c hc
  have hzero : ∀ {n : Nat}, c ∈ List.replicate n '0' → Plain c := by
    intro n hz
    rw [List.eq_of_mem_replicate hz]
    decide
  unfold positional at hc
  split at hc
  · simp only [List.mem_cons, List.mem_append] at hc
    rcases hc with rfl | rfl | hc | hc
    · decide
    · decide
    · exact hzero hc
    · exact h c hc
  · simp only [List.mem_cons, List.mem_append] at hc
    rcases hc with (hc | hc) | rfl | hc
    · exact h c (List.mem_of_mem_take hc)
    · exact hzero hc
    · decide
    · split at hc
      · rw [List.mem_singleton.1 hc]
        decide
      · exact h c (List.mem_of_mem_drop hc)

theorem plain_scientific {ds : List Char} (h : AllPlain ds) (point : Int) :
    AllPlain (scientific ds point) := by
  intro c hc
  unfold scientific at hc
  simp only [List.mem_append, List.mem_cons] at hc
  rcases hc with hc | rfl | rfl | hc
  · split at hc
    · simp only [List.mem_cons] at hc
      rcases hc with rfl | rfl | hc
      · exact h _ (by simp)
      · decide
      · exact h c (by simpa using Or.inr hc)
    · exact h c hc
  · decide
  · split <;> decide
  · split at hc
    · rcases List.mem_cons.1 hc with rfl | hc
      · decide
      · exact plain_digits _ c hc
    · exact plain_digits _ c hc

theorem plain_shortest (negative : Bool) (significand : Nat) (exponent : Int) :
    AllPlain (shortest negative significand exponent) := by
  have hunsigned : AllPlain (shortest false significand exponent) := by
    intro c hc
    simp only [shortest, Bool.false_eq_true, if_false] at hc
    split at hc
    · exact (by decide : AllPlain ['0', '.', '0']) c hc
    · split at hc
      · exact plain_positional (plain_shortestDigits _ _) _ c hc
      · exact plain_scientific (plain_shortestDigits _ _) _ c hc
  cases negative with
  | false => exact hunsigned
  | true =>
    intro c hc
    rcases List.mem_cons.1 (show c ∈ '-' :: shortest false significand exponent from hc) with
      rfl | hc
    · decide
    · exact hunsigned c hc

end Number

theorem Text.plain_hexDigits (width n : Nat) : AllPlain (hexDigits width n) := by
  have hdigit : ∀ k < 16, Plain (Nat.digitChar k) := by decide
  induction width generalizing n with
  | zero => exact List.forall_mem_nil _
  | succ width ih =>
    intro c hc
    rw [hexDigits, List.mem_append, List.mem_singleton] at hc
    rcases hc with hc | rfl
    · exact ih _ c hc
    · exact hdigit _ (Nat.mod_lt n (by decide))

/-! ### Values -/

/-- A character that a layout may write. -/
def JsonLayout.Allows (layout : JsonLayout) (c : Char) : Prop :=
  0x20 ≤ c.toNat ∧ (layout.asciiOnly = true → c.toNat ≤ 0x7E)

theorem JsonLayout.allows_of_plain (layout : JsonLayout) {c : Char} (h : Plain c) :
    layout.Allows c := ⟨h.1, fun _ => h.2⟩

theorem JsonLayout.allows_of_allPlain (layout : JsonLayout) {cs : List Char} (h : AllPlain cs) :
    ∀ c ∈ cs, layout.Allows c := fun c hc => layout.allows_of_plain (h c hc)

/-- What a layout puts between items and after names is plain. -/
structure JsonLayout.IsPlain (layout : JsonLayout) : Prop where
  comma : AllPlain layout.comma
  colon : AllPlain layout.colon

theorem JsonLayout.isPlain_script : script.IsPlain := ⟨by decide, by decide⟩

theorem JsonLayout.isPlain_compact : compact.IsPlain := ⟨by decide, by decide⟩

namespace Value

theorem plain_escapeUnit (n : Nat) : AllPlain (escapeUnit n) := by
  intro c hc
  rcases List.mem_cons.1 hc with rfl | hc
  · decide
  · rcases List.mem_cons.1 hc with rfl | hc
    · decide
    · exact Text.plain_hexDigits 4 n c hc

theorem plain_escapeCode (n : Nat) : AllPlain (escapeCode n) := by
  intro c hc
  unfold escapeCode at hc
  split at hc
  · exact plain_escapeUnit _ c hc
  · rcases List.mem_append.1 hc with hc | hc
    · exact plain_escapeUnit _ c hc
    · exact plain_escapeUnit _ c hc

theorem forall_mem_ite {p : Prop} [Decidable p] {P : Char → Prop} {as bs : List Char}
    (ha : ∀ c ∈ as, P c) (hb : ¬ p → ∀ c ∈ bs, P c) : ∀ c ∈ if p then as else bs, P c := by
  by_cases h : p
  · rwa [if_pos h]
  · rw [if_neg h]
    exact hb h

theorem allows_of_mem_escapeChar (layout : JsonLayout) (c : Char) :
    ∀ d ∈ escapeChar layout.asciiOnly c, layout.Allows d := by
  have hpair : ∀ {a b : Char}, AllPlain [a, b] → ∀ d ∈ [a, b], layout.Allows d :=
    fun h => layout.allows_of_allPlain h
  unfold escapeChar
  -- the characters that have an escape of their own
  iterate 7 refine forall_mem_ite (hpair (by decide)) fun _ => ?_
  refine forall_mem_ite (layout.allows_of_allPlain (plain_escapeCode _)) fun hkept => ?_
  rw [List.forall_mem_singleton]
  simp only [Bool.or_eq_true, Bool.and_eq_true, decide_eq_true_eq, not_or, not_and,
    Nat.not_lt] at hkept
  exact ⟨hkept.1, hkept.2⟩

theorem allows_of_mem_jsonText (layout : JsonLayout) (s : String) :
    ∀ c ∈ jsonText layout.asciiOnly s, layout.Allows c := by
  intro c hc
  simp only [jsonText, List.mem_cons, List.mem_append, List.mem_flatMap, List.not_mem_nil,
    or_false] at hc
  rcases hc with rfl | ⟨d, -, hc⟩ | rfl
  · exact layout.allows_of_plain (by decide)
  · exact allows_of_mem_escapeChar layout d c hc
  · exact layout.allows_of_plain (by decide)

theorem plain_jsonFloat (x : Number.Double) : AllPlain (jsonFloat x) := by
  cases x with
  | nan => decide
  | infinite negative => cases negative <;> decide
  | finite negative significand exponent =>
    exact Number.plain_shortest negative significand exponent

section Layout

variable {layout : JsonLayout} (h : layout.IsPlain)

include h

mutual

/-- JSON text consists of characters that its layout may write. -/
theorem allows_of_mem_jsonChars : ∀ v : Value, ∀ c ∈ v.jsonChars layout, layout.Allows c
  | .null => layout.allows_of_allPlain (by decide : AllPlain "null".toList)
  | .bool true => layout.allows_of_allPlain (by decide : AllPlain "true".toList)
  | .bool false => layout.allows_of_allPlain (by decide : AllPlain "false".toList)
  | .int n => layout.allows_of_allPlain (Number.plain_decimal n)
  | .float x => layout.allows_of_allPlain (plain_jsonFloat x)
  | .text s => allows_of_mem_jsonText layout s
  | .list [] => layout.allows_of_allPlain (by decide : AllPlain ['[', ']'])
  | .list (item :: items) => by
    intro c hc
    simp only [jsonChars, List.mem_cons, List.mem_append, List.not_mem_nil, or_false] at hc
    rcases hc with rfl | (hc | hc) | rfl
    · exact layout.allows_of_plain (by decide)
    · exact allows_of_mem_jsonChars item c hc
    · exact allows_of_mem_jsonItems items c hc
    · exact layout.allows_of_plain (by decide)
  | .object [] => layout.allows_of_allPlain (by decide : AllPlain ['\x7b', '\x7d'])
  | .object ((name, value) :: fields) => by
    intro c hc
    simp only [jsonChars, List.mem_cons, List.mem_append, List.not_mem_nil, or_false] at hc
    rcases hc with rfl | (((hc | hc) | hc) | hc) | rfl
    · exact layout.allows_of_plain (by decide)
    · exact allows_of_mem_jsonText layout name c hc
    · exact layout.allows_of_plain (h.colon c hc)
    · exact allows_of_mem_jsonChars value c hc
    · exact allows_of_mem_jsonFields fields c hc
    · exact layout.allows_of_plain (by decide)

theorem allows_of_mem_jsonItems :
    ∀ items : List Value, ∀ c ∈ jsonItems layout items, layout.Allows c
  | [] => by simp [jsonItems]
  | item :: items => by
    intro c hc
    simp only [jsonItems, List.mem_append] at hc
    rcases hc with (hc | hc) | hc
    · exact layout.allows_of_plain (h.comma c hc)
    · exact allows_of_mem_jsonChars item c hc
    · exact allows_of_mem_jsonItems items c hc

theorem allows_of_mem_jsonFields :
    ∀ fields : List (String × Value), ∀ c ∈ jsonFields layout fields, layout.Allows c
  | [] => by simp [jsonFields]
  | (name, value) :: fields => by
    intro c hc
    simp only [jsonFields, List.mem_append] at hc
    rcases hc with (((hc | hc) | hc) | hc) | hc
    · exact layout.allows_of_plain (h.comma c hc)
    · exact allows_of_mem_jsonText layout name c hc
    · exact layout.allows_of_plain (h.colon c hc)
    · exact allows_of_mem_jsonChars value c hc
    · exact allows_of_mem_jsonFields fields c hc

end

/-- A value is written on one line. -/
theorem oneLine_json (v : Value) : Text.OneLine (v.json layout) := by
  intro hnewline
  rw [json, String.toList_ofList] at hnewline
  exact absurd (allows_of_mem_jsonChars h v '\n' hnewline).1 (by decide)

end Layout

@[simp] theorem oneLine_script (v : Value) : Text.OneLine v.script :=
  oneLine_json JsonLayout.isPlain_script v

@[simp] theorem oneLine_compact (v : Value) : Text.OneLine (v.json .compact) :=
  oneLine_json JsonLayout.isPlain_compact v

end Value

end SuiteCompiler
