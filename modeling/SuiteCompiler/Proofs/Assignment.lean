/-
  SuiteCompiler/Proofs/Assignment.lean
  ====================================
  The variables that an assignment sets.

  The payload of an assignment is an object in the compact layout.  That is plain
  ASCII: a character above U+FFFF is written as the escapes of two units
  (`Value.escapeChar_eq_units`), and any other beyond U+007E as one.  The reader skips
  the blanks of a layout and needs none, so it takes the payload back to the object,
  and the statement tells which variables are set (`assignment_carries_bindings`).
-/
import SuiteCompiler.Generation.Instrumentation
import SuiteCompiler.Proofs.RoundTrip

namespace SuiteCompiler

theorem JsonLayout.isReadable_compact : compact.IsReadable :=
  ⟨⟨[], rfl, List.forall_mem_nil _⟩, ⟨[], rfl, List.forall_mem_nil _⟩⟩

/-- In plain ASCII a character above U+FFFF is written as the two units that stand for it. -/
theorem Value.escapeChar_eq_units {c : Char} (h : 0x10000 ≤ c.toNat) :
    ∃ leading trailing, Json.isLeadingUnit leading = true ∧ Json.isTrailingUnit trailing = true ∧
      Json.pairChar leading trailing = c ∧
      escapeChar true c = escapeUnit leading ++ escapeUnit trailing := by
  obtain ⟨hleading, htrailing, hpair⟩ := Json.pairChar_units h
  refine ⟨_, _, hleading, htrailing, hpair, ?_⟩
  have hne : ∀ d : Char, d.toNat < 0x10000 → c ≠ d := by
    rintro d hd rfl
    omega
  have hhigh : (decide (c.toNat < 0x20) || (true && decide (0x7E < c.toNat))) = true := by
    simp
    omega
  rw [escapeChar, if_neg (hne '"' (by decide)), if_neg (hne '\\' (by decide)),
    if_neg (hne '\n' (by decide)), if_neg (hne '\r' (by decide)), if_neg (hne '\t' (by decide)),
    if_neg (hne '\x0c' (by decide)), if_neg (hne '\x08' (by decide)), if_pos hhigh, escapeCode,
    if_neg (Nat.not_lt.2 h)]

namespace Instrumentation

/-- The payload of an assignment. -/
def payload (bindings : Fields) : String := (Value.object bindings).json .compact

theorem plain_payload (bindings : Fields) : AllPlain (payload bindings).toList := by
  intro c hc
  rw [payload, Value.json, String.toList_ofList] at hc
  have hallows := Value.allows_of_mem_jsonChars JsonLayout.isPlain_compact _ c hc
  exact ⟨hallows.1, hallows.2 rfl⟩

/-- Statements that set variables differ in their payloads alone. -/
theorem payload_of_assignment {bindings others : Fields}
    (h : assignment bindings = assignment others) : payload bindings = payload others := by
  have hleft : "      Object.assign( ENV, " ++ (payload bindings ++ " );\n") =
      "      Object.assign( ENV, " ++ (payload others ++ " );\n") := by
    rw [← String.append_assoc, ← String.append_assoc]
    exact h
  exact (String.append_left_inj _).1 ((String.append_right_inj _).1 hleft)

/-- **What an assignment carries.**  The payload of the statement is plain ASCII, with a pair of
units for a character above U+FFFF, and it is read as the variables, each with its value and in
their order.  So different variables are set by different statements. -/
theorem assignment_carries_bindings {bindings : Fields}
    (h : (Value.object bindings).isPortable = true) :
    (∃ p : String, assignment bindings = "      Object.assign( ENV, " ++ p ++ " );\n" ∧
        (∀ c ∈ p.toList, 0x20 ≤ c.toNat ∧ c.toNat ≤ 0x7E) ∧
        Value.parse p = .ok (.object bindings)) ∧
      (∀ c : Char, 0xFFFF < c.toNat → ∃ leading trailing, Json.isLeadingUnit leading = true ∧
        Json.isTrailingUnit trailing = true ∧ Json.pairChar leading trailing = c ∧
        Value.escapeChar JsonLayout.compact.asciiOnly c =
          Value.escapeUnit leading ++ Value.escapeUnit trailing) ∧
      ∀ others : Fields, (Value.object others).isPortable = true →
        assignment others = assignment bindings → others = bindings := by
  have hread := Value.parse_json JsonLayout.isReadable_compact h
  refine ⟨⟨payload bindings, rfl, plain_payload bindings, hread⟩,
    fun c hc => Value.escapeChar_eq_units hc, ?_⟩
  intro others hothers hsame
  have hread' := Value.parse_json JsonLayout.isReadable_compact hothers
  have hpayload : (Value.object others).json .compact = (Value.object bindings).json .compact :=
    payload_of_assignment hsame
  rw [hpayload, hread] at hread'
  exact (Value.object.inj (Except.ok.inj hread')).symm

/-- Variables of all kinds, with texts that are not plain. -/
def checkout : Fields :=
  [("größe", .text "😀\x7f\"\\\n"), ("count", .int (-120)),
    ("items", .list [.null, .bool true, .object [("", .text "\ud7ff\ue000")]])]

theorem checkout_is_carried :
    (Value.object checkout).isPortable = true ∧
      ∃ p : String, assignment checkout = "      Object.assign( ENV, " ++ p ++ " );\n" ∧
        (∀ c ∈ p.toList, 0x20 ≤ c.toNat ∧ c.toNat ≤ 0x7E) ∧
        Value.parse p = .ok (.object checkout) := by
  have hportable : (Value.object checkout).isPortable = true := by decide
  obtain ⟨⟨p, hstatement, hplain, hread⟩, -, -⟩ := assignment_carries_bindings hportable
  exact ⟨hportable, p, hstatement, hplain, hread⟩

example : payload checkout = "\x7b\"gr\\u00f6\\u00dfe\":\"\\ud83d\\ude00\\u007f\\\"\\\\\\n\"," ++
    "\"count\":-120,\"items\":[null,true,\x7b\"\":\"\\ud7ff\\ue000\"\x7d]\x7d" := by
  decide +kernel

end Instrumentation

end SuiteCompiler
