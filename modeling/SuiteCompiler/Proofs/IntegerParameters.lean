/-
  SuiteCompiler/Proofs/IntegerParameters.lean
  ===========================================
  Whole numbers as parameters, given as numbers or as texts.

  A size of the page and a time can be given either way.  What is written of such a
  parameter is a whole number in decimal notation, and nothing else of it shows
  (`render_of_toInteger`).  The decimal notation of a number denotes that number, with
  white space around it or not (`denotes_toString`), and whatever a text denotes has no
  more digits in decimal notation than the text (`length_digits_le_of_denotes`).  So a
  number and a text that denotes it make the same source
  (`numbers_and_texts_render_alike`).
-/
import Mathlib.Data.Nat.Digits.Defs
import SuiteCompiler.Proofs.RenderFaults
import SuiteCompiler.Proofs.Tokens

namespace SuiteCompiler

open Outcome

/-! ### White space -/

/-- A character with the Unicode property `White_Space`. -/
def Text.IsWhiteSpace (c : Char) : Prop :=
  (0x09 ≤ c.toNat ∧ c.toNat ≤ 0x0D) ∨ c.toNat = 0x20 ∨ c.toNat = 0x85 ∨ c.toNat = 0xA0 ∨
    c.toNat = 0x1680 ∨ (0x2000 ≤ c.toNat ∧ c.toNat ≤ 0x200A) ∨ c.toNat = 0x2028 ∨
    c.toNat = 0x2029 ∨ c.toNat = 0x202F ∨ c.toNat = 0x205F ∨ c.toNat = 0x3000

instance (c : Char) : Decidable (Text.IsWhiteSpace c) := inferInstanceAs (Decidable (_ ∨ _))

namespace Number

/-- What may surround a number is what Unicode calls white space. -/
theorem isNumberBlank_iff {c : Char} : isNumberBlank c = true ↔ Text.IsWhiteSpace c := by
  simp only [isNumberBlank, Text.isBlank, Text.IsWhiteSpace, Bool.and_eq_true, Bool.or_eq_true,
    Bool.not_eq_true', Bool.and_eq_false_iff, decide_eq_true_eq, decide_eq_false_iff_not,
    beq_iff_eq]
  omega

/-! ### Decimal notation -/

theorem toString_eq_decimal (n : Int) : (toString n).toList = decimal n := by
  cases n with
  | ofNat n => exact String.toList_ofList
  | negSucc n =>
    have htext : toString (Int.negSucc n) = "-" ++ toString (n + 1) := rfl
    rw [htext, String.toList_append]
    exact congrArg ('-' :: ·) String.toList_ofList

theorem digitValue?_of_isDigit {c : Char} (h : Json.isDigit c = true) :
    digitValue? c = some (c.toNat - 0x30) := by
  have hrange : 0x30 ≤ c.toNat ∧ c.toNat < 0x30 + 10 := by
    simp only [Json.isDigit, Bool.and_eq_true, decide_eq_true_eq, Char.le_def] at h
    have hlow : 48 ≤ c.toNat := h.1
    have hhigh : c.toNat ≤ 57 := h.2
    omega
  unfold digitValue? zeroDigits
  rw [List.find?_cons_of_pos (by simpa using hrange)]
  rfl

theorem isNumeral_of_digits {cs : List Char} (hne : cs ≠ []) (h : ∀ c ∈ cs, IsDigit c) :
    IsNumeral cs := by
  induction cs with
  | nil => exact absurd rfl hne
  | cons c cs ih =>
    rw [List.forall_mem_cons] at h
    cases cs with
    | nil => exact .digit h.1
    | cons d cs => exact .cons h.1 (ih (List.cons_ne_nil d cs) h.2)

theorem isNumeral_digits (n : Nat) : IsNumeral (digits n) := by
  refine isNumeral_of_digits Nat.toDigits_ne_nil fun c hc => ?_
  unfold IsDigit
  rw [digitValue?_of_isDigit (Json.isDigit_of_mem_digits hc)]
  rfl

theorem numeralValues_digits (n : Nat) : numeralValues (digits n) = Json.digitValues (digits n) := by
  have hvalue : ∀ c ∈ digits n, digitValue? c = some (c.toNat - 0x30) := fun c hc =>
    digitValue?_of_isDigit (Json.isDigit_of_mem_digits hc)
  exact (List.filterMap_congr hvalue).trans (congrFun List.filterMap_eq_map' _)

theorem lt_ten_of_mem_numeralValues {cs : List Char} {d : Nat} (h : d ∈ numeralValues cs) :
    d < 10 := by
  obtain ⟨c, -, hc⟩ := List.mem_filterMap.1 h
  obtain ⟨z, hz, rfl⟩ := Option.map_eq_some_iff.1 hc
  have hrange := List.find?_some hz
  simp only [Bool.and_eq_true, decide_eq_true_eq] at hrange
  omega

/-- A number is less than the power of ten that has one more digit. -/
theorem ofDigitValues_lt {values : List Nat} (h : ∀ d ∈ values, d < 10) :
    ofDigitValues values < 10 ^ values.length := by
  have hfold : ∀ n, values.foldl (fun n d => n * 10 + d) n < (n + 1) * 10 ^ values.length := by
    induction values with
    | nil => simp
    | cons d values ih =>
      intro n
      rw [List.forall_mem_cons] at h
      have hstep : (n * 10 + d + 1) * 10 ^ values.length ≤ (n + 1) * 10 * 10 ^ values.length :=
        Nat.mul_le_mul_right _ (by omega)
      calc (d :: values).foldl (fun n d => n * 10 + d) n
          < (n * 10 + d + 1) * 10 ^ values.length := ih h.2 (n * 10 + d)
        _ ≤ (n + 1) * 10 * 10 ^ values.length := hstep
        _ = (n + 1) * 10 ^ (d :: values).length := by
          rw [List.length_cons, Nat.pow_succ', Nat.mul_assoc]
  simpa [ofDigitValues] using hfold 0

/-! ### Texts that denote a number -/

/-- The decimal notation of a number denotes it, with white space around it or not. -/
theorem denotes_toString {n : Int} (hn : (digits n.natAbs).length ≤ digitLimit) {before after : String}
    (hbefore : ∀ c ∈ before.toList, Text.IsWhiteSpace c)
    (hafter : ∀ c ∈ after.toList, Text.IsWhiteSpace c) :
    Denotes (before ++ toString n ++ after) n := by
  have hlength : (numeralValues (digits n.natAbs)).length ≤ digitLimit := by
    rwa [numeralValues_digits, Json.digitValues, List.length_map]
  have hvalue : ofDigitValues (numeralValues (digits n.natAbs)) = n.natAbs := by
    rw [numeralValues_digits, Json.ofDigitValues_digits]
  have htext : (before ++ toString n ++ after).toList =
      before.toList ++ (decimal n ++ after.toList) := by
    rw [String.toList_append, String.toList_append, toString_eq_decimal, List.append_assoc]
  cases n with
  | ofNat n =>
    exact ⟨_, [], _, digits n, _, htext, fun c hc => isNumberBlank_iff.2 (hbefore c hc),
      fun c hc => isNumberBlank_iff.2 (hafter c hc), .none, isNumeral_digits n, hlength,
      congrArg Int.ofNat hvalue.symm⟩
  | negSucc n =>
    exact ⟨_, ['-'], _, digits (n + 1), _, htext, fun c hc => isNumberBlank_iff.2 (hbefore c hc),
      fun c hc => isNumberBlank_iff.2 (hafter c hc), .minus, isNumeral_digits (n + 1), hlength,
      congrArg (fun k : Nat => -(k : Int)) hvalue.symm⟩

/-- What a text denotes has no more digits than are read. -/
theorem length_digits_le_of_denotes {s : String} {n : Int} (h : Denotes s n) :
    (digits n.natAbs).length ≤ digitLimit := by
  obtain ⟨_, sign, value, numeral, _, -, -, -, hsign, hnumeral, hlength, rfl⟩ := h
  have hpositive : 0 < (numeralValues numeral).length := by
    obtain ⟨c, rest, rfl, hc⟩ := hnumeral.exists_head
    obtain ⟨d, hd⟩ := Option.isSome_iff_exists.1 hc
    simp [numeralValues, hd]
  have hvalue : (value (ofDigitValues (numeralValues numeral))).natAbs =
      ofDigitValues (numeralValues numeral) := by
    cases hsign <;> simp
  rw [hvalue]
  exact (Nat.toDigits_length 10 _ _ hpositive
    (ofDigitValues_lt fun d => lt_ten_of_mem_numeralValues)).trans hlength

end Number

namespace Jest

/-! ### Parameters -/

/-- The parameters that are whole numbers. -/
inductive IntegerParam where
  | width
  | height
  | value
  | timeout
  deriving DecidableEq, Repr

namespace IntegerParam

/-- The name of a parameter. -/
def name : IntegerParam → String
  | .width => "width"
  | .height => "height"
  | .value => "value"
  | .timeout => "timeout"

/-- The method that has a parameter. -/
def method : IntegerParam → Renderer
  | .width => setViewport
  | .height => setViewport
  | .value => waitForTimeout
  | .timeout => goto

/-- What a command is rendered from if it is given a value for a parameter. -/
def supply (p : IntegerParam) (ctx : RenderContext) (v : Value) : RenderContext :=
  { ctx with params := ctx.params.set p.name v }

/-- The source of the method of a parameter that is given a value. -/
def render (p : IntegerParam) (ctx : RenderContext) (v : Value) : Except TemplateFault String :=
  p.method (p.supply ctx v)

/-- The source of the method of a parameter with some digits in its place. -/
def written : IntegerParam → RenderContext → String → Except TemplateFault String
  | .width, ctx, digits => do
    let height ← integerParam ctx "height"
    return s!"      await bs.page.setViewport(\x7b width: {digits}, height: {height} \x7d);"
  | .height, ctx, digits => do
    let width ← integerParam ctx "width"
    return s!"      await bs.page.setViewport(\x7b width: {width}, height: {digits} \x7d);"
  | .value, _, digits => return s!"      await bs.page.waitForTimeout( {digits} );"
  | .timeout, ctx, digits => do
    let url ← param ctx "url"
    return s!"      await bs.page.goto( {url.script}, \x7b timeout: {digits} \x7d );"

variable {p : IntegerParam} {ctx : RenderContext} {v : Value} {n : Int}

theorem number_eq_toString (n : Int) : number n = toString n := by
  rw [← String.toList_inj, Number.toString_eq_decimal, number, String.toList_ofList]

theorem integerParam_supply_self (h : toInteger v = .ok n) :
    integerParam (p.supply ctx v) p.name = .ok n := by
  rw [integerParam_eq_ok_iff]
  exact ⟨v, Fields.get?_set_self p.name v ctx.params, h⟩

theorem param_supply_of_ne {name : String} (h : name ≠ p.name) :
    param (p.supply ctx v) name = param ctx name := by
  unfold param
  rw [show (p.supply ctx v).params.get? name = ctx.params.get? name from
    Fields.get?_set_of_ne h v ctx.params]

theorem integerParam_supply_of_ne {name : String} (h : name ≠ p.name) :
    integerParam (p.supply ctx v) name = integerParam ctx name := by
  unfold integerParam
  rw [param_supply_of_ne h]

/-- Of a parameter only the whole number shows that it stands for. -/
theorem render_of_toInteger (h : toInteger v = .ok n) :
    p.render ctx v = p.written ctx (toString n) := by
  have hself : integerParam (p.supply ctx v) p.name = .ok n := integerParam_supply_self h
  cases p with
  | width =>
    have hother : integerParam (width.supply ctx v) "height" = integerParam ctx "height" :=
      integerParam_supply_of_ne (by decide)
    simp only [name] at hself
    simp only [render, method, setViewport, hself, hother, ok_bind, number_eq_toString, written]
    rfl
  | height =>
    have hother : integerParam (height.supply ctx v) "width" = integerParam ctx "width" :=
      integerParam_supply_of_ne (by decide)
    simp only [name] at hself
    simp only [render, method, setViewport, hself, hother, ok_bind, number_eq_toString, written]
    rfl
  | value =>
    simp only [name] at hself
    simp only [render, method, waitForTimeout, hself, ok_bind, number_eq_toString, written]
    rfl
  | timeout =>
    have hother : param (timeout.supply ctx v) "url" = param ctx "url" :=
      param_supply_of_ne (by decide)
    have hget : (timeout.supply ctx v).params.get? "timeout" = some v :=
      Fields.get?_set_self "timeout" v ctx.params
    simp only [render, method, goto, hget, hother, Option.getD_some, h, number_eq_toString, written]
    rfl

theorem toInteger_text_eq_ok_iff {s : String} : toInteger (.text s) = .ok n ↔ Number.Denotes s n := by
  rw [← Number.readDecimal_eq_ok_iff, toInteger]
  cases Number.readDecimal s with
  | ok n' => simp
  | error fault => cases fault <;> simp

/-- **Numbers and texts render alike.**  A whole number of at most 4300 digits makes the same source
as its decimal notation with white space around it, and the digits in the source are its decimal
notation.  A text is accepted if and only if it denotes a whole number; the digits in the source
are then the decimal notation of that number, and denote it. -/
theorem numbers_and_texts_render_alike (p : IntegerParam) (ctx : RenderContext) :
    (∀ (n : Int) (before after : String), (Number.digits n.natAbs).length ≤ 4300 →
      (∀ c ∈ before.toList, Text.IsWhiteSpace c) → (∀ c ∈ after.toList, Text.IsWhiteSpace c) →
      p.render ctx (.text (before ++ toString n ++ after)) = p.render ctx (.int n) ∧
        p.render ctx (.int n) = p.written ctx (toString n)) ∧
    ∀ (s : String) (n : Int), (toInteger (.text s) = .ok n ↔ Number.Denotes s n) ∧
      (Number.Denotes s n →
        p.render ctx (.text s) = p.written ctx (toString n) ∧ Number.Denotes (toString n) n) := by
  constructor
  · intro n before after hn hbefore hafter
    have htext : toInteger (.text (before ++ toString n ++ after)) = .ok n :=
      toInteger_text_eq_ok_iff.2 (Number.denotes_toString hn hbefore hafter)
    have hnumber : p.render ctx (.int n) = p.written ctx (toString n) := render_of_toInteger rfl
    exact ⟨(render_of_toInteger htext).trans hnumber.symm, hnumber⟩
  · intro s n
    refine ⟨toInteger_text_eq_ok_iff, fun hs => ?_⟩
    have hdecimal : Number.Denotes ("" ++ toString n ++ "") n :=
      Number.denotes_toString (Number.length_digits_le_of_denotes hs) (by simp) (by simp)
    rw [String.empty_append, String.append_empty] at hdecimal
    exact ⟨render_of_toInteger (toInteger_text_eq_ok_iff.2 hs), hdecimal⟩

/-- A way to the front page; the time that it may take is still to be given. -/
def visit : RenderContext := onPage "goto" [("url", .text "/"), ("timeout", .null)]

/-- An em space before a negative number, a line tabulation and a no-break space after it, and
Arabic-Indic digits with a sign, a leading zero and an underscore. -/
theorem times_of_visit :
    timeout.render visit (.text "\u2003-250\u000b\u00a0") =
      .ok "      await bs.page.goto( \"/\", \x7b timeout: -250 \x7d );" ∧
    timeout.render visit (.text "+\u0660\u0663_\u0660") =
      .ok "      await bs.page.goto( \"/\", \x7b timeout: 30 \x7d );" := by
  obtain ⟨hspaced, htexts⟩ := numbers_and_texts_render_alike timeout visit
  constructor
  · have hbefore : ∀ c ∈ ['\u2003'], Text.IsWhiteSpace c := List.forall_mem_singleton.2 (by decide)
    have hafter : ∀ c ∈ ['\u000b', '\u00a0'], Text.IsWhiteSpace c :=
      List.forall_mem_cons.2 ⟨by decide, List.forall_mem_singleton.2 (by decide)⟩
    obtain ⟨hsame, hwritten⟩ := hspaced (-250) "\u2003" "\u000b\u00a0" (by decide)
      (by simpa using hbefore) (by simpa using hafter)
    exact hsame.trans (hwritten.trans rfl)
  · obtain ⟨hread, hrender⟩ := htexts "+\u0660\u0663_\u0660" 30
    exact (hrender (hread.1 rfl)).1.trans rfl

end IntegerParam

end Jest

end SuiteCompiler
