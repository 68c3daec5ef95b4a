/-
  SuiteCompiler/Proofs/Tokens.lean
  ================================
  Texts and whole numbers as JSON: what is written is read.

  A character is written as itself or as an escape, and either way the reader takes
  exactly what was written and gives the character (`readChar_escapeChar`); so it
  takes a text up to the quote that closes it (`exists_jsonText`).  A number has no
  mark at its end, so what follows it has to be something that cannot continue it
  (`readScalar_decimal`).
-/
import SuiteCompiler.Document.Reader
import SuiteCompiler.Document.Writer
import Mathlib.Data.List.Basic

namespace SuiteCompiler.Json

/-! ### Escapes -/

theorem hexValue?_digitChar : ∀ k < 16, hexValue? (Nat.digitChar k) = some k := by decide

/-- Four hexadecimal digits. -/
theorem exists_hexDigits {n : Nat} (h : n < 0x10000) :
    ∃ a b c d, Text.hexDigits 4 n = [a, b, c, d] ∧ hexUnit? a b c d = some n := by
  refine ⟨_, _, _, _, rfl, ?_⟩
  have hdigit : ∀ k, hexValue? (Nat.digitChar (k % 16)) = some (k % 16) := fun k =>
    hexValue?_digitChar _ (Nat.mod_lt k (by decide))
  simp only [hexUnit?, hdigit]
  refine congrArg some ?_
  omega

theorem readChar_escapeUnit {n : Nat} (h : n < 0xD800 ∨ 0xDFFF < n ∧ n < 0x10000)
    (opening : List Char) {rest : List Char} (hrest : rest ≠ []) :
    readChar opening (Value.escapeUnit n ++ rest) = .ok (Char.ofNat n, rest) := by
  obtain ⟨a, b, c, d, hdigits, hunit⟩ := exists_hexDigits (n := n) (by omega)
  have hleading : isLeadingUnit n = false := by simp [isLeadingUnit]; omega
  have htrailing : isTrailingUnit n = false := by simp [isTrailingUnit]; omega
  rw [Value.escapeUnit, hdigits]
  simp [readChar, readUnicodeEscape, hunit, hrest, hleading, htrailing, unitChar]

/-- A leading unit takes the trailing one with it. -/
theorem readChar_escapeUnits {m n : Nat} (hm : isLeadingUnit m = true)
    (hn : isTrailingUnit n = true) (opening : List Char) {rest : List Char} (hrest : rest ≠ []) :
    readChar opening (Value.escapeUnit m ++ Value.escapeUnit n ++ rest) =
      .ok (pairChar m n, rest) := by
  have hm' : 0xD800 ≤ m ∧ m ≤ 0xDBFF := by simpa [isLeadingUnit] using hm
  have hn' : 0xDC00 ≤ n ∧ n ≤ 0xDFFF := by simpa [isTrailingUnit] using hn
  obtain ⟨a, b, c, d, hdigits, hunit⟩ := exists_hexDigits (n := m) (by omega)
  obtain ⟨e, f, g, h, hdigits', hunit'⟩ := exists_hexDigits (n := n) (by omega)
  obtain ⟨x, more, rfl⟩ := List.exists_cons_of_ne_nil hrest
  rw [Value.escapeUnit, Value.escapeUnit, hdigits, hdigits']
  simp [readChar, readUnicodeEscape, hunit, hunit', hm, hn]

/-- The two units of a character above U+FFFF stand for it. -/
theorem pairChar_units {c : Char} (h : 0x10000 ≤ c.toNat) :
    isLeadingUnit (0xD800 + (c.toNat - 0x10000) / 0x400) = true ∧
      isTrailingUnit (0xDC00 + (c.toNat - 0x10000) % 0x400) = true ∧
      pairChar (0xD800 + (c.toNat - 0x10000) / 0x400)
        (0xDC00 + (c.toNat - 0x10000) % 0x400) = c := by
  have hvalid : c.toNat < 0xD800 ∨ 0xDFFF < c.toNat ∧ c.toNat < 0x110000 := c.valid
  refine ⟨by simp [isLeadingUnit]; omega, by simp [isTrailingUnit]; omega, ?_⟩
  have hcode : 0x10000 + (0xD800 + (c.toNat - 0x10000) / 0x400 - 0xD800) * 0x400 +
      (0xDC00 + (c.toNat - 0x10000) % 0x400 - 0xDC00) = c.toNat := by omega
  rw [pairChar, hcode, Char.ofNat_toNat]

theorem readChar_escapeCode (c : Char) (opening : List Char) {rest : List Char}
    (hrest : rest ≠ []) :
    readChar opening (Value.escapeCode c.toNat ++ rest) = .ok (c, rest) := by
  have hvalid : c.toNat < 0xD800 ∨ 0xDFFF < c.toNat ∧ c.toNat < 0x110000 := c.valid
  unfold Value.escapeCode
  split
  · rw [readChar_escapeUnit (by omega) opening hrest, Char.ofNat_toNat]
  · next hlarge =>
    obtain ⟨hleading, htrailing, hpair⟩ := pairChar_units (Nat.not_lt.1 hlarge)
    rw [readChar_escapeUnits hleading htrailing opening hrest, hpair]

/-- A character between quotes is read as it was written. -/
theorem readChar_escapeChar (asciiOnly : Bool) (c : Char) (opening : List Char)
    {rest : List Char} (hrest : rest ≠ []) :
    readChar opening (Value.escapeChar asciiOnly c ++ rest) = .ok (c, rest) := by
  unfold Value.escapeChar
  -- the characters that have an escape of their own
  iterate 7
    split
    · rename_i hc
      subst hc
      rfl
  split
  · exact readChar_escapeCode c opening hrest
  · rename_i hbackslash _ _ _ _ _ hkept
    have hlow : ¬ c.toNat < 0x20 := by
      intro hlow
      simp [hlow] at hkept
    simp [readChar, hbackslash, hlow]

/-! ### Texts -/

/-- A character between quotes does not look like the quote at the end. -/
theorem exists_escapeChar (asciiOnly : Bool) (c : Char) :
    ∃ d ds, Value.escapeChar asciiOnly c = d :: ds ∧ d ≠ '"' := by
  unfold Value.escapeChar
  iterate 7
    split
    · exact ⟨_, _, rfl, by decide⟩
  split
  · unfold Value.escapeCode
    split <;> exact ⟨_, _, rfl, by decide⟩
  · exact ⟨c, [], rfl, by assumption⟩

theorem readCharsFrom_succ {opening : List Char} {fuel : Nat} {c d : Char}
    {cs rest : List Char} (hc : c ≠ '"') (h : readChar opening (c :: cs) = .ok (d, rest)) :
    readCharsFrom opening (fuel + 1) (c :: cs) =
      (readCharsFrom opening fuel rest).map fun (cs, rest) => (d :: cs, rest) := by
  rw [readCharsFrom, h]
  exact fun _ e => hc (List.cons.inj e).1

/-- What is written between quotes is read up to the quote that closes it. -/
theorem readCharsFrom_flatMap (asciiOnly : Bool) (opening rest : List Char) {cs : List Char}
    {fuel : Nat} (hfuel : cs.length ≤ fuel) :
    readCharsFrom opening fuel (cs.flatMap (Value.escapeChar asciiOnly) ++ '"' :: rest) =
      .ok (cs, rest) := by
  induction cs generalizing fuel with
  | nil => cases fuel <;> rfl
  | cons c cs ih =>
    cases fuel with
    | zero => simp at hfuel
    | succ fuel =>
      obtain ⟨d, ds, hescape, hd⟩ := exists_escapeChar asciiOnly c
      have hrest : cs.flatMap (Value.escapeChar asciiOnly) ++ '"' :: rest ≠ [] := by simp
      have hchar := readChar_escapeChar asciiOnly c opening hrest
      rw [List.flatMap_cons, List.append_assoc]
      rw [hescape, List.cons_append] at hchar ⊢
      rw [readCharsFrom_succ hd hchar, ih (Nat.le_of_succ_le_succ hfuel)]
      rfl

theorem length_le_length_flatMap (asciiOnly : Bool) (cs : List Char) :
    cs.length ≤ (cs.flatMap (Value.escapeChar asciiOnly)).length := by
  induction cs with
  | nil => simp
  | cons c cs ih =>
    obtain ⟨d, ds, hescape, -⟩ := exists_escapeChar asciiOnly c
    rw [List.flatMap_cons, List.length_append, hescape, List.length_cons, List.length_cons]
    omega

/-- A text in quotes is read as the text. -/
theorem exists_jsonText (asciiOnly : Bool) (s : String) (rest : List Char) :
    ∃ cs, Value.jsonText asciiOnly s ++ rest = '"' :: cs ∧ readText cs = .ok (s, rest) := by
  refine ⟨_, by rw [Value.jsonText, List.cons_append], ?_⟩
  have hlength := length_le_length_flatMap asciiOnly s.toList
  rw [readText, List.append_assoc, List.singleton_append,
    readCharsFrom_flatMap asciiOnly _ rest (by rw [List.length_append]; omega)]
  simp [Except.map]

/-! ### Whole numbers -/

/-- What may follow a value: the end, or a mark that ends an item or a field. -/
def Ends : List Char → Prop
  | [] => True
  | c :: _ => c = ',' ∨ c = ']' ∨ c = '\x7d'

theorem Ends.takeWhile_isDigit {rest : List Char} (h : Ends rest) :
    rest.takeWhile isDigit = [] ∧ rest.dropWhile isDigit = rest := by
  cases rest with
  | nil => exact ⟨rfl, rfl⟩
  | cons c rest =>
    have hc : isDigit c = false := by
      rcases h with rfl | rfl | rfl <;> rfl
    simp [hc]

theorem isDigit_of_mem_digits {n : Nat} {c : Char} (h : c ∈ Number.digits n) :
    isDigit c = true := by
  have hdigit := Nat.isDigit_of_mem_toDigits (by decide) (by decide) h
  simpa [Char.isDigit, isDigit, Char.le_def] using hdigit

theorem ofDigitValues_digits (n : Nat) :
    Number.ofDigitValues (digitValues (Number.digits n)) = n := by
  have hvalues : Number.ofDigitValues (digitValues (Number.digits n)) =
      Nat.ofDigitChars 10 (Number.digits n) 0 := by
    simp only [Number.ofDigitValues, digitValues, List.foldl_map, Nat.ofDigitChars, Nat.mul_comm 10]
    rfl
  exact hvalues.trans Nat.ofDigitChars_ten_toDigits

/-- A positive number is written without a leading zero. -/
theorem exists_digits (n : Nat) (h : 0 < n) :
    ∃ c cs, Number.digits n = c :: cs ∧ c ≠ '0' := by
  induction n using Nat.strongRecOn with
  | ind n ih =>
    rw [Number.digits, Nat.toDigits_eq_if (by decide)]
    split
    · refine ⟨_, [], rfl, ?_⟩
      rw [Ne, Nat.digitChar_eq_zero]
      omega
    · obtain ⟨c, cs, hdigits, hc⟩ := ih (n / 10) (by omega) (by omega)
      exact ⟨c, cs ++ [_], by rw [← Number.digits, hdigits, List.cons_append], hc⟩

theorem readWhole_digits (n : Nat) {rest : List Char} (h : Ends rest) :
    readWhole (Number.digits n ++ rest) = some (Number.digits n, rest) := by
  rcases Nat.eq_zero_or_pos n with rfl | hn
  · rfl
  · obtain ⟨c, cs, hdigits, hc⟩ := exists_digits n hn
    have hall : ∀ d ∈ c :: cs, isDigit d = true := fun d hd =>
      isDigit_of_mem_digits (hdigits ▸ hd)
    have hcs : ∀ d ∈ cs, isDigit d = true := fun d hd => hall d (List.mem_cons_of_mem c hd)
    rw [hdigits, List.cons_append, readWhole, if_neg hc, if_pos (hall c List.mem_cons_self),
      List.takeWhile_append_of_pos hcs, List.dropWhile_append_of_pos hcs,
      h.takeWhile_isDigit.1, h.takeWhile_isDigit.2, List.append_nil]

theorem Ends.readFraction {rest : List Char} (h : Ends rest) : readFraction rest = none := by
  cases rest with
  | nil => rfl
  | cons c rest => rcases h with rfl | rfl | rfl <;> rfl

theorem Ends.readExponent {rest : List Char} (h : Ends rest) : readExponent rest = none := by
  cases rest with
  | nil => rfl
  | cons c rest => rcases h with rfl | rfl | rfl <;> rfl

theorem readUnsigned_digits (negative : Bool) {n : Nat} {rest : List Char} (h : Ends rest)
    (hlimit : (Number.digits n).length ≤ Number.digitLimit) :
    readUnsigned negative (Number.digits n ++ rest) =
      some (.ok (.int (if negative then -n else n)), rest) := by
  simp [readUnsigned, readWhole_digits n h, h.readFraction, h.readExponent, Nat.not_lt.2 hlimit,
    ofDigitValues_digits]

theorem exists_digits_cons (n : Nat) : ∃ c cs, Number.digits n = c :: cs ∧ isDigit c = true := by
  obtain ⟨c, cs, h⟩ := List.exists_cons_of_ne_nil (Nat.toDigits_ne_nil (n := n) (b := 10))
  exact ⟨c, cs, h, isDigit_of_mem_digits (by rw [Number.digits, h]; exact List.mem_cons_self)⟩

theorem readNumber_decimal {n : Int} {rest : List Char} (h : Ends rest)
    (hlimit : (Number.digits n.natAbs).length ≤ Number.digitLimit) :
    readNumber (Number.decimal n ++ rest) = .ok (.int n, rest) := by
  cases n with
  | ofNat n =>
    have hread := readUnsigned_digits false h hlimit
    obtain ⟨c, cs, hdigits, hc⟩ := exists_digits_cons n
    have hminus : c ≠ '-' := by
      rintro rfl
      exact absurd hc (by decide)
    rw [Number.decimal]
    simp only [Int.ofNat_eq_natCast, Int.natAbs_natCast, hdigits, List.cons_append] at hread ⊢
    simp [readNumber, hminus, hread]
  | negSucc n =>
    have hread := readUnsigned_digits true h hlimit
    simp only [readNumber, Number.decimal, List.cons_append]
    rw [show n + 1 = (Int.negSucc n).natAbs from rfl, hread]
    rfl

theorem readScalar_of_no_word {cs : List Char} (h : ∀ word ∈ words, ¬ word.1 <+: cs) :
    readScalar cs = readNumber cs := by
  have hnone : ∀ word ∈ words, word.1.isPrefixOf? cs = none := by
    intro word hmem
    rw [Option.eq_none_iff_forall_ne_some]
    intro rest hrest
    exact h word hmem ⟨rest, List.isPrefixOf?_eq_some_iff_append_eq.1 hrest⟩
  rw [readScalar, List.findSome?_eq_none_iff.2]
  rintro ⟨word, v⟩ hmem
  have hword : word.isPrefixOf? cs = none := hnone (word, v) hmem
  simp only [hword, Option.map_none]

theorem readScalar_decimal {n : Int} {rest : List Char} (h : Ends rest)
    (hlimit : (Number.digits n.natAbs).length ≤ Number.digitLimit) :
    readScalar (Number.decimal n ++ rest) = .ok (.int n, rest) := by
  have hwords : ∀ word ∈ words, ¬ word.1 <+: Number.decimal n ++ rest := by
    obtain ⟨c, cs, hdigits, hc⟩ := exists_digits_cons n.natAbs
    have hne : ∀ d, isDigit d = false → d ≠ c := by
      rintro d hd rfl
      exact absurd hc (by simp [hd])
    cases n with
    | ofNat n =>
      rw [Int.ofNat_eq_natCast, Int.natAbs_natCast] at hdigits
      simp [words, Number.decimal, hdigits, hne, isDigit]
    | negSucc n =>
      rw [Int.natAbs_negSucc] at hdigits
      simp [words, Number.decimal, hdigits, hne, isDigit]
  rw [readScalar_of_no_word hwords]
  exact readNumber_decimal h hlimit

end SuiteCompiler.Json
