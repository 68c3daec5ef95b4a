/-
  SuiteCompiler/Proofs/Methods.lean
  =================================
  What each built-in method asks for, and what it then writes.

  Every renderer has one lemma, `*_eq_ok_iff`, that names the data it needs and the
  source it makes of them; nothing else makes it succeed.
-/
import SuiteCompiler.Jest.Composer
import SuiteCompiler.Proofs.Numerals
import SuiteCompiler.Proofs.Outcome

namespace SuiteCompiler.Jest

open Outcome

/-! ### Parts -/

/-- A value that stands for a whole number: a truth value, a number that is neither infinite nor
undefined, or a text that denotes one. -/
def IsConvertible : Value → Prop
  | .bool _ => True
  | .int _ => True
  | .float x => ∃ negative significand exponent, x = .finite negative significand exponent
  | .text s => ∃ n, Number.Denotes s n
  | _ => False

theorem exists_toInteger_iff {v : Value} : (∃ n, toInteger v = .ok n) ↔ IsConvertible v := by
  cases v with
  | float x => cases x <;> simp [toInteger, IsConvertible]
  | text s =>
    simp only [toInteger, IsConvertible, ← Number.readDecimal_eq_ok_iff]
    cases h : Number.readDecimal s with
    | ok n => simp
    | error fault => cases fault <;> simp
  | _ => simp [toInteger, IsConvertible]

theorem identifier_eq_ok_iff {v : Value} {name : String} :
    identifier v = .ok name ↔ v = .text name ∧ Text.isIdentifier name = true := by
  cases v with
  | text s =>
    cases h : Text.isIdentifier s with
    | false =>
      simp only [identifier, h, Bool.false_eq_true, if_false, reduceCtorEq, false_iff]
      rintro ⟨hs, hname⟩
      obtain rfl := Value.text.inj hs
      simp [h] at hname
    | true =>
      simp only [identifier, h, if_true, Except.ok.injEq, Value.text.injEq]
      constructor
      · rintro rfl
        exact ⟨rfl, h⟩
      · exact And.left
  | _ => simp [identifier]

theorem element_eq_ok_iff {ctx : RenderContext} {text : String} :
    element ctx = .ok text ↔
      ∃ name, ctx.target = .text name ∧ Text.isIdentifier name = true ∧
        text = s!"( await {name}() )" := by
  unfold element
  rw [bind_pure_eq_ok_iff]
  refine exists_congr fun name => ?_
  rw [identifier_eq_ok_iff, and_assoc]

theorem param_eq_ok_iff {ctx : RenderContext} {name : String} {v : Value} :
    param ctx name = .ok v ↔ ctx.params.get? name = some v := by
  unfold param
  cases ctx.params.get? name <;> simp

theorem integerParam_eq_ok_iff {ctx : RenderContext} {name : String} {n : Int} :
    integerParam ctx name = .ok n ↔
      ∃ v, ctx.params.get? name = some v ∧ toInteger v = .ok n := by
  unfold integerParam
  rw [bind_eq_ok_iff]
  refine exists_congr fun v => and_congr param_eq_ok_iff ?_
  cases toInteger v with
  | ok n => simp
  | error fault => cases fault <;> simp

theorem assertedValue_eq_ok_iff {ctx : RenderContext} {v : Value} :
    assertedValue ctx = .ok v ↔
      ∃ fields, ctx.assertion = some fields ∧ fields.get? "value" = some v := by
  unfold assertedValue
  cases ctx.assertion with
  | none => simp
  | some fields =>
    cases h : fields.get? "value" <;> simp [h]

/-! ### Methods of the page -/

theorem goto_eq_ok_iff {ctx : RenderContext} {text : String} :
    goto ctx = .ok text ↔
      ∃ url n, ctx.params.get? "url" = some url ∧
        toInteger ((ctx.params.get? "timeout").getD (.int navigationTimeout)) = .ok n ∧
        text = s!"{indent}await bs.page.goto( {url.script}, \x7b timeout: {number n} \x7d );" := by
  unfold goto
  rw [bind_eq_ok_iff]
  refine exists_congr fun url => ?_
  rw [param_eq_ok_iff, exists_and_left]
  refine and_congr_right fun _ => ?_
  cases toInteger ((ctx.params.get? "timeout").getD (.int navigationTimeout)) with
  | error fault => simp [throw, throwThe, MonadExceptOf.throw]
  | ok n => simp [eq_comm]

theorem setViewport_eq_ok_iff {ctx : RenderContext} {text : String} :
    setViewport ctx = .ok text ↔
      ∃ width height,
        integerParam ctx "width" = .ok width ∧ integerParam ctx "height" = .ok height ∧
        text = indent ++ "await bs.page.setViewport(\x7b width: " ++ number width ++
          ", height: " ++ number height ++ " \x7d);" := by
  unfold setViewport
  rw [bind_eq_ok_iff]
  refine exists_congr fun width => ?_
  rw [bind_pure_eq_ok_iff, exists_and_left]
  rfl

theorem screenshot_eq_ok_iff {ctx : RenderContext} {text : String} :
    screenshot ctx = .ok text ↔
      text = indent ++ "await bs.screenshot( " ++
        ((ctx.params.get "name").orElse ctx.commandId).script ++ " );" := by
  unfold screenshot
  rw [pure_eq_ok, Except.ok.injEq, eq_comm]
  rfl

theorem waitForTimeout_eq_ok_iff {ctx : RenderContext} {text : String} :
    waitForTimeout ctx = .ok text ↔
      ∃ n, integerParam ctx "value" = .ok n ∧
        text = s!"{indent}await bs.page.waitForTimeout( {number n} );" := by
  unfold waitForTimeout
  exact bind_pure_eq_ok_iff

theorem reload_eq_ok_iff {ctx : RenderContext} {text : String} :
    reload ctx = .ok text ↔ text = s!"{indent}await bs.page.reload();" := by
  unfold reload
  rw [pure_eq_ok, Except.ok.injEq, eq_comm]

theorem assertTitle_eq_ok_iff {ctx : RenderContext} {text : String} :
    assertTitle ctx = .ok text ↔
      ∃ v, assertedValue ctx = .ok v ∧
        text = s!"{indent}expect( await bs.page.title() ).toBe( {v.script} );" := by
  unfold assertTitle
  exact bind_pure_eq_ok_iff

/-! ### Methods of an element -/

theorem click_eq_ok_iff {ctx : RenderContext} {text : String} :
    click ctx = .ok text ↔
      ∃ e, element ctx = .ok e ∧ text = s!"{indent}await {e}.click();" := by
  unfold click
  exact bind_pure_eq_ok_iff

theorem typeText_eq_ok_iff {ctx : RenderContext} {text : String} :
    typeText ctx = .ok text ↔
      ∃ e v, element ctx = .ok e ∧ ctx.params.get? "value" = some v ∧
        text = s!"{indent}await {e}.type( {v.script} );" := by
  unfold typeText
  rw [bind_eq_ok_iff]
  refine exists_congr fun e => ?_
  rw [bind_pure_eq_ok_iff, exists_and_left]
  refine and_congr_right fun _ => exists_congr fun v => ?_
  rw [param_eq_ok_iff]

theorem focus_eq_ok_iff {ctx : RenderContext} {text : String} :
    focus ctx = .ok text ↔
      ∃ e, element ctx = .ok e ∧ text = s!"{indent}await {e}.focus();" := by
  unfold focus
  exact bind_pure_eq_ok_iff

theorem hover_eq_ok_iff {ctx : RenderContext} {text : String} :
    hover ctx = .ok text ↔
      ∃ e, element ctx = .ok e ∧ text = s!"{indent}await {e}.hover();" := by
  unfold hover
  exact bind_pure_eq_ok_iff

theorem assertVisible_eq_ok_iff {ctx : RenderContext} {text : String} :
    assertVisible ctx = .ok text ↔
      ∃ e, element ctx = .ok e ∧
        text = indent ++ "expect( await bs.isVisible( " ++ e ++ " ) ).toBe( true ); // " ++
          ctx.testId.display ++ ":" ++ ctx.commandId.display := by
  unfold assertVisible
  rw [bind_pure_eq_ok_iff]
  refine exists_congr fun e => and_congr_right fun _ => ?_
  simp [toString, String.append_assoc]

theorem assertText_eq_ok_iff {ctx : RenderContext} {text : String} :
    assertText ctx = .ok text ↔
      ∃ v e, assertedValue ctx = .ok v ∧ element ctx = .ok e ∧
        text = s!"{indent}expect( await bs.getText( {e} ) ).toContain( {v.script} );" := by
  unfold assertText
  rw [bind_eq_ok_iff]
  refine exists_congr fun v => ?_
  rw [bind_pure_eq_ok_iff, exists_and_left]

end SuiteCompiler.Jest
