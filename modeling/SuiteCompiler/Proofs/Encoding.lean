/-
  SuiteCompiler/Proofs/Encoding.lean
  ==================================
  Texts in files: what is written is read.

  A character is written in UTF-8 as one to four bytes, and from these the reader
  gets it back whatever follows (`decodeFirst_utf8EncodeChar`), so it gets back
  every text (`decodeUtf8_toUTF8`).  A text without carriage returns has the line
  ends that readers see (`normalizeNewlines_of_notMem`).
-/
import SuiteCompiler.Proofs.Outcome
import SuiteCompiler.Text.Lines
import SuiteCompiler.Text.Utf8

namespace SuiteCompiler.Text

/-! ### Bytes as numbers -/

theorem sequenceLength_eq (lead : UInt8) :
    sequenceLength lead =
      if lead.toNat < 0x80 then some 1
      else if lead.toNat < 0xC2 then none
      else if lead.toNat < 0xE0 then some 2
      else if lead.toNat < 0xF0 then some 3
      else if lead.toNat < 0xF5 then some 4
      else none := by
  simp [sequenceLength, UInt8.lt_iff_toNat_lt]

theorem isContinuation_iff {b : UInt8} :
    isContinuation b = true ↔ 0x80 ≤ b.toNat ∧ b.toNat ≤ 0xBF := by
  simp [isContinuation, UInt8.le_iff_toNat_le]

theorem mayFollow_iff {lead b : UInt8} :
    mayFollow lead b = true ↔ (0x80 ≤ b.toNat ∧ b.toNat ≤ 0xBF) ∧
      (lead.toNat = 0xE0 → 0xA0 ≤ b.toNat) ∧ (lead.toNat = 0xED → b.toNat ≤ 0x9F) ∧
      (lead.toNat = 0xF0 → 0x90 ≤ b.toNat) ∧ (lead.toNat = 0xF4 → b.toNat ≤ 0x8F) := by
  unfold mayFollow
  rw [Bool.and_eq_true, isContinuation_iff]
  refine and_congr_right fun _ => ?_
  simp only [← UInt8.toNat_inj, UInt8.le_iff_toNat_le]
  grind

theorem toNat_ofNat_of_lt {n : Nat} (h : n < 256) : (UInt8.ofNat n).toNat = n := by
  simpa using h

/-- The byte for the six low bits of a number, which is no leading one. -/
def trailing (n : Nat) : UInt8 := UInt8.ofNat (n % 64 + 128)

theorem toNat_trailing (n : Nat) : (trailing n).toNat = n % 64 + 128 :=
  toNat_ofNat_of_lt (by omega)

theorem isContinuation_trailing (n : Nat) : isContinuation (trailing n) = true := by
  rw [isContinuation_iff, toNat_trailing]
  omega

theorem payload_trailing (n : Nat) : payload (trailing n) = n % 64 := by
  have hbyte := toNat_trailing n
  unfold payload
  omega

/-! ### One character -/

section Lengths

variable {n : Nat} (rest : List UInt8)

theorem decodeFirst_one (h : n < 0x80) :
    decodeFirst (UInt8.ofNat n) rest = .ok (Char.ofNat n, 0) := by
  have hlead : (UInt8.ofNat n).toNat = n := toNat_ofNat_of_lt (by omega)
  have hlength : sequenceLength (UInt8.ofNat n) = some 1 := by grind [sequenceLength_eq]
  simp only [decodeFirst, hlength, hlead]

theorem decodeFirst_two (hlow : 0x80 ≤ n) (hhigh : n < 0x800) :
    decodeFirst (UInt8.ofNat (n / 64 % 32 + 192)) (trailing n :: rest) = .ok (Char.ofNat n, 1) := by
  have hlead : (UInt8.ofNat (n / 64 % 32 + 192)).toNat = n / 64 + 192 := by
    rw [toNat_ofNat_of_lt (by omega)]
    omega
  have htrailing := toNat_trailing n
  have hlength : sequenceLength (UInt8.ofNat (n / 64 % 32 + 192)) = some 2 := by
    grind [sequenceLength_eq]
  have hfollow : mayFollow (UInt8.ofNat (n / 64 % 32 + 192)) (trailing n) = true :=
    mayFollow_iff.2 (by omega)
  have hcode : ((UInt8.ofNat (n / 64 % 32 + 192)).toNat - 0xC0) * 64 + payload (trailing n) =
      n := by
    rw [hlead, payload_trailing]
    omega
  simp only [decodeFirst, hlength, hfollow, if_true, hcode]

theorem decodeFirst_three (hlow : 0x800 ≤ n) (hhigh : n < 0x10000)
    (hscalar : n < 0xD800 ∨ 0xDFFF < n) :
    decodeFirst (UInt8.ofNat (n / 4096 % 16 + 224))
        (trailing (n / 64) :: trailing n :: rest) = .ok (Char.ofNat n, 2) := by
  have hlead : (UInt8.ofNat (n / 4096 % 16 + 224)).toNat = n / 4096 + 224 := by
    rw [toNat_ofNat_of_lt (by omega)]
    omega
  have htrailing := toNat_trailing (n / 64)
  have hlength : sequenceLength (UInt8.ofNat (n / 4096 % 16 + 224)) = some 3 := by
    grind [sequenceLength_eq]
  have hfollow : mayFollow (UInt8.ofNat (n / 4096 % 16 + 224)) (trailing (n / 64)) = true :=
    mayFollow_iff.2 (by omega)
  have hcode : (((UInt8.ofNat (n / 4096 % 16 + 224)).toNat - 0xE0) * 64 +
      payload (trailing (n / 64))) * 64 + payload (trailing n) = n := by
    rw [hlead, payload_trailing, payload_trailing]
    omega
  simp only [decodeFirst, hlength, hfollow, isContinuation_trailing, if_true, hcode]

theorem decodeFirst_four (hlow : 0x10000 ≤ n) (hhigh : n < 0x110000) :
    decodeFirst (UInt8.ofNat (n / 262144 % 8 + 240))
        (trailing (n / 4096) :: trailing (n / 64) :: trailing n :: rest) =
      .ok (Char.ofNat n, 3) := by
  have hlead : (UInt8.ofNat (n / 262144 % 8 + 240)).toNat = n / 262144 + 240 := by
    rw [toNat_ofNat_of_lt (by omega)]
    omega
  have htrailing := toNat_trailing (n / 4096)
  have hlength : sequenceLength (UInt8.ofNat (n / 262144 % 8 + 240)) = some 4 := by
    grind [sequenceLength_eq]
  have hfollow : mayFollow (UInt8.ofNat (n / 262144 % 8 + 240)) (trailing (n / 4096)) = true :=
    mayFollow_iff.2 (by omega)
  have hcode : (((((UInt8.ofNat (n / 262144 % 8 + 240)).toNat - 0xF0) * 64 +
      payload (trailing (n / 4096))) * 64 + payload (trailing (n / 64))) * 64) +
      payload (trailing n) = n := by
    rw [hlead, payload_trailing, payload_trailing, payload_trailing]
    omega
  simp only [decodeFirst, hlength, hfollow, isContinuation_trailing, if_true, hcode]

end Lengths

/-- The bytes of a character are read as the character, whatever follows. -/
theorem decodeFirst_utf8EncodeChar (c : Char) :
    ∃ lead more, String.utf8EncodeChar c = lead :: more ∧
      ∀ rest, decodeFirst lead (more ++ rest) = .ok (c, more.length) := by
  have hvalid : c.toNat < 0xD800 ∨ 0xDFFF < c.toNat ∧ c.toNat < 0x110000 := c.valid
  have hval : c.val.toNat = c.toNat := rfl
  unfold String.utf8EncodeChar
  simp only [hval]
  split
  · refine ⟨_, _, rfl, fun rest => (decodeFirst_one rest (by omega)).trans ?_⟩
    rw [Char.ofNat_toNat]
    rfl
  split
  · refine ⟨_, _, rfl, fun rest => (decodeFirst_two rest (by omega) (by omega)).trans ?_⟩
    rw [Char.ofNat_toNat]
    rfl
  split
  · refine ⟨_, _, rfl, fun rest =>
      (decodeFirst_three rest (by omega) (by omega) (by omega)).trans ?_⟩
    rw [Char.ofNat_toNat]
    rfl
  · refine ⟨_, _, rfl, fun rest => (decodeFirst_four rest (by omega) (by omega)).trans ?_⟩
    rw [Char.ofNat_toNat]
    rfl

/-! ### Texts -/

theorem decodeFrom_skip (offset : Nat) (more rest : List UInt8) :
    decodeFrom offset more.length (more ++ rest) = decodeFrom (offset + more.length) 0 rest := by
  induction more generalizing offset with
  | nil => rfl
  | cons b more ih =>
    rw [List.length_cons, List.cons_append, decodeFrom, ih, Nat.add_assoc, Nat.add_comm 1]

theorem decodeFrom_flatMap_utf8EncodeChar (offset : Nat) (cs : List Char) :
    decodeFrom offset 0 (cs.flatMap String.utf8EncodeChar) = .ok cs := by
  induction cs generalizing offset with
  | nil => rfl
  | cons c cs ih =>
    obtain ⟨lead, more, hbytes, hfirst⟩ := decodeFirst_utf8EncodeChar c
    rw [List.flatMap_cons, hbytes, List.cons_append]
    simp only [decodeFrom, hfirst, decodeFrom_skip, ih]
    rfl

theorem toList_loop (bytes : ByteArray) (i : Nat) (before : List UInt8) :
    ByteArray.toList.loop bytes i before = before.reverse ++ bytes.data.toList.drop i := by
  fun_induction ByteArray.toList.loop bytes i before with
  | case1 i before hi ih =>
    have hlt : i < bytes.data.toList.length := by simpa using hi
    rw [ih, List.drop_eq_getElem_cons hlt]
    simp [ByteArray.get!, hi]
  | case2 i before hi =>
    rw [List.drop_eq_nil_of_le (by simpa using Nat.le_of_not_lt hi), List.append_nil]

theorem toList_toUTF8 (s : String) :
    s.toUTF8.toList = s.toList.flatMap String.utf8EncodeChar := by
  have hbytes : s.toUTF8 = (s.toList.flatMap String.utf8EncodeChar).toByteArray :=
    calc s.toUTF8 = (String.ofList s.toList).toByteArray := by rw [String.ofList_toList]; rfl
      _ = (s.toList.flatMap String.utf8EncodeChar).toByteArray := String.toByteArray_ofList
  rw [hbytes, ByteArray.toList, toList_loop, List.toList_data_toByteArray]
  rfl

/-- The bytes of a text are read as the text. -/
theorem decodeUtf8_toUTF8 (s : String) : decodeUtf8 s.toUTF8.toList = .ok s.toList := by
  rw [toList_toUTF8]
  exact decodeFrom_flatMap_utf8EncodeChar 0 s.toList

/-! ### Line ends -/

theorem normalizeNewlines_of_notMem {cs : List Char} (h : '\r' ∉ cs) :
    normalizeNewlines cs = cs := by
  induction cs with
  | nil => rfl
  | cons c cs ih =>
    have hc : c ≠ '\r' := fun e => h (e ▸ List.mem_cons_self)
    rw [normalizeNewlines, ih fun hcs => h (List.mem_cons_of_mem c hcs)]
    · exact fun _ e _ => hc e
    · exact hc

end SuiteCompiler.Text
