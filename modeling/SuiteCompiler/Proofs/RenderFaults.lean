/-
  SuiteCompiler/Proofs/RenderFaults.lean
  ======================================
  How the built-in methods fail.

  A method reports what it is not given as an error of a key, and what it cannot use as
  an error of a value.  An error of another class comes from the conversion to a whole
  number alone: an infinite number is an overflow, and what is no number at all an error
  of its type.  A parameter of `setViewport` or `waitForTimeout` is guarded against the
  latter and the timeout of `goto` against neither.  `Escapes` lists what gets through,
  and nothing else does (`fails_as_documented_iff`).
-/
import SuiteCompiler.Proofs.Methods

namespace SuiteCompiler

/-- What is missing is an error of a key, and what is malformed one of a value. -/
def ErrorClass.IsDocumented (c : ErrorClass) : Prop := c = .key ∨ c = .value

instance (c : ErrorClass) : Decidable c.IsDocumented := inferInstanceAs (Decidable (_ ∨ _))

/-! ### Outcomes -/

/-- An outcome is a text or something else that is made, or an error of a documented class. -/
def FailsAsDocumented {α : Type} (outcome : Except TemplateFault α) : Prop :=
  (∃ a, outcome = .ok a) ∨ ∃ fault, outcome = .error fault ∧ fault.errorClass.IsDocumented

namespace FailsAsDocumented

variable {α β : Type}

theorem pure (a : α) : FailsAsDocumented (.ok a) := .inl ⟨a, rfl⟩

theorem bind {outcome : Except TemplateFault α} {f : α → Except TemplateFault β}
    (h : FailsAsDocumented outcome) (hf : ∀ a, FailsAsDocumented (f a)) :
    FailsAsDocumented (outcome >>= f) := by
  rcases h with ⟨a, rfl⟩ | ⟨fault, rfl, hdoc⟩
  · exact hf a
  · exact .inr ⟨fault, rfl, hdoc⟩

theorem error_iff {fault : TemplateFault} :
    FailsAsDocumented (.error fault : Except TemplateFault α) ↔ fault.errorClass.IsDocumented := by
  constructor
  · rintro (⟨a, ha⟩ | ⟨other, hother, hdoc⟩)
    · cases ha
    · obtain rfl := Except.error.inj hother
      exact hdoc
  · intro h
    exact .inr ⟨fault, rfl, h⟩

end FailsAsDocumented

/-- These are the classes, beside the documented ones, of the error that an outcome is, if it is
one. -/
def EscapesAs {α : Type} (outcome : Except TemplateFault α) (classes : ErrorClass → Prop) : Prop :=
  ∀ c, classes c ↔ ¬ c.IsDocumented ∧ ∃ fault, outcome = .error fault ∧ fault.errorClass = c

namespace EscapesAs

variable {α β : Type} {outcome : Except TemplateFault α} {classes : ErrorClass → Prop}

theorem failsAsDocumented_iff (h : EscapesAs outcome classes) :
    FailsAsDocumented outcome ↔ ∀ c, ¬ classes c := by
  simp only [h _]
  cases outcome with
  | ok a => simp [FailsAsDocumented.pure a]
  | error fault =>
    rw [FailsAsDocumented.error_iff]
    constructor
    · rintro hdoc _ ⟨hc, _, hfault, rfl⟩
      obtain rfl := Except.error.inj hfault
      exact hc hdoc
    · intro hnone
      by_cases hdoc : fault.errorClass.IsDocumented
      · exact hdoc
      · exact absurd ⟨hdoc, fault, rfl, rfl⟩ (hnone _)

theorem of_documented (h : FailsAsDocumented outcome) : EscapesAs outcome fun _ => False := by
  intro c
  rw [false_iff]
  rintro ⟨hc, fault, rfl, rfl⟩
  exact hc (FailsAsDocumented.error_iff.1 h)

theorem congr {others : ErrorClass → Prop} (h : EscapesAs outcome classes)
    (hiff : ∀ c, others c ↔ classes c) : EscapesAs outcome others := by
  intro c
  rw [hiff, h c]

/-- What a step can end in, and what the next one can, made of anything that the first gives. -/
theorem bind {f : α → Except TemplateFault β} {next : α → ErrorClass → Prop}
    (h : EscapesAs outcome classes) (hf : ∀ a, outcome = .ok a → EscapesAs (f a) (next a)) :
    EscapesAs (outcome >>= f) fun c => classes c ∨ ∃ a, outcome = .ok a ∧ next a c := by
  intro c
  dsimp only
  cases outcome with
  | error fault =>
    rw [h c]
    simp [Outcome.error_bind]
  | ok a =>
    have hnone : ¬ classes c := by simp [h c]
    simp [Outcome.ok_bind, hnone, hf a rfl c]

theorem bind_pure {f : α → β} (h : EscapesAs outcome classes) :
    EscapesAs (do let a ← outcome; return f a) classes :=
  (h.bind fun a _ => of_documented (.pure (f a))).congr fun c => by simp

end EscapesAs

namespace Jest

variable {ctx : RenderContext}

/-! ### Parts -/

def IsInfinite : Value → Prop
  | .float (.infinite _) => True
  | _ => False

/-- A value of a kind that does not convert to a number, whatever the value is. -/
def IsNoNumber : Value → Prop
  | .null => True
  | .list _ => True
  | .object _ => True
  | _ => False

/-- The classes of error in which the conversion of a value can end, if it is not the value that is
wrong. -/
inductive Unconvertible (v : Value) : ErrorClass → Prop
  | overflow (h : IsInfinite v) : Unconvertible v .overflow
  | type (h : IsNoNumber v) : Unconvertible v .type

theorem Unconvertible.not_isDocumented {v : Value} {c : ErrorClass} (h : Unconvertible v c) :
    ¬ c.IsDocumented := by
  cases h with
  | overflow _ => decide
  | type _ => decide

theorem toInteger_of_isInfinite {v : Value} (h : IsInfinite v) :
    toInteger v = .error .infinite := by
  unfold IsInfinite at h
  split at h
  · rfl
  · contradiction

theorem toInteger_of_isNoNumber {v : Value} (h : IsNoNumber v) :
    toInteger v = .error (.wrongKind v.kind) := by
  unfold IsNoNumber at h
  split at h
  · rfl
  · rfl
  · rfl
  · contradiction

theorem Unconvertible.exists_fault {v : Value} {c : ErrorClass} (h : Unconvertible v c) :
    ∃ fault, toInteger v = .error fault ∧ fault.errorClass = c := by
  cases h with
  | overflow h => exact ⟨_, toInteger_of_isInfinite h, rfl⟩
  | type h => exact ⟨_, toInteger_of_isNoNumber h, rfl⟩

theorem class_of_toInteger {v : Value} {fault : IntegerFault} (h : toInteger v = .error fault) :
    fault.errorClass = .value ∨ Unconvertible v fault.errorClass := by
  unfold toInteger at h
  split at h
  · cases h
  · cases h
  · cases h
    exact .inl rfl
  · cases h
    exact .inr (.overflow trivial)
  · cases h
  · -- a text is what it is: the error is one of its value
    split at h
    · cases h
    · cases h
      exact .inl rfl
    · cases h
      exact .inl rfl
  · cases h
    refine .inr (.type ?_)
    cases v with
    | null => trivial
    | list _ => trivial
    | object _ => trivial
    | float x => cases x <;> simp_all
    | _ => simp_all

theorem isInfinite_of_toInteger {v : Value} (h : toInteger v = .error .infinite) :
    IsInfinite v := by
  rcases class_of_toInteger h with hvalue | hclass
  · cases hvalue
  · change Unconvertible v .overflow at hclass
    cases hclass with
    | overflow h => exact h

theorem escapes_toInteger (v : Value) :
    EscapesAs ((toInteger v).mapError TemplateFault.integer) (Unconvertible v) := by
  intro c
  constructor
  · intro h
    obtain ⟨fault, hfault, hclass⟩ := h.exists_fault
    rw [hfault]
    exact ⟨h.not_isDocumented, _, rfl, hclass⟩
  · rintro ⟨hc, _, hfault, rfl⟩
    obtain ⟨fault, hinteger, rfl⟩ := Outcome.mapError_eq_error_iff.1 hfault
    rcases class_of_toInteger hinteger with hvalue | h
    · exact absurd (.inr hvalue) hc
    · exact h

theorem param_documented (ctx : RenderContext) (name : String) :
    FailsAsDocumented (param ctx name) := by
  unfold param
  cases ctx.params.get? name with
  | some v => exact .pure v
  | none => exact .inr ⟨_, rfl, .inl rfl⟩

theorem assertedValue_documented (ctx : RenderContext) : FailsAsDocumented (assertedValue ctx) := by
  unfold assertedValue
  cases ctx.assertion.bind (·.get? "value") with
  | some v => exact .pure v
  | none => exact .inr ⟨_, rfl, .inr rfl⟩

theorem element_documented {name : String} (h : ctx.target = .text name) :
    FailsAsDocumented (element ctx) := by
  cases hname : Text.isIdentifier name with
  | true => exact .inl ⟨_, element_eq_ok_iff.2 ⟨name, h, hname, rfl⟩⟩
  | false =>
    refine .inr ⟨.notAnIdentifier name, ?_, .inr rfl⟩
    simp [element, identifier, h, hname]

/-- A parameter is given and infinite. -/
def GivesInfinite (ctx : RenderContext) (name : String) : Prop :=
  ∃ v, ctx.params.get? name = some v ∧ IsInfinite v

theorem class_of_integerParam {name : String} {fault : TemplateFault}
    (h : integerParam ctx name = .error fault) :
    fault.errorClass.IsDocumented ∨ fault.errorClass = .overflow ∧ GivesInfinite ctx name := by
  unfold integerParam param at h
  cases hv : ctx.params.get? name with
  | none =>
    rw [hv] at h
    cases h
    exact .inl (.inl rfl)
  | some v =>
    rw [hv] at h
    simp only [Outcome.ok_bind] at h
    split at h
    · cases h
    · next hinteger =>
      cases h
      exact .inr ⟨rfl, v, hv, isInfinite_of_toInteger hinteger⟩
    · cases h
      exact .inl (.inr rfl)

theorem escapes_integerParam (ctx : RenderContext) (name : String) :
    EscapesAs (integerParam ctx name) fun c => c = .overflow ∧ GivesInfinite ctx name := by
  intro c
  constructor
  · rintro ⟨rfl, v, hv, h⟩
    refine ⟨by decide, .integer .infinite, ?_, rfl⟩
    unfold integerParam param
    rw [hv]
    simp only [Outcome.ok_bind, toInteger_of_isInfinite h]
  · rintro ⟨hc, fault, hfault, rfl⟩
    exact (class_of_integerParam hfault).resolve_left hc

/-! ### Methods -/

/-- The data on which a method ends in an error of a class that is not documented: the timeout of
`goto` is not guarded at all, and no method is guarded against an infinite number. -/
def Escapes (ctx : RenderContext) : TargetKind → String → ErrorClass → Prop
  | .page, "goto", c => (∃ url, ctx.params.get? "url" = some url) ∧
      ∃ timeout, ctx.params.get? "timeout" = some timeout ∧ Unconvertible timeout c
  | .page, "setViewport", c => c = .overflow ∧ (GivesInfinite ctx "width" ∨
      (∃ width, ctx.params.get? "width" = some width ∧ IsConvertible width) ∧
        GivesInfinite ctx "height")
  | .page, "waitForTimeout", c => c = .overflow ∧ GivesInfinite ctx "value"
  | _, _, _ => False

theorem escapes_goto (ctx : RenderContext) :
    EscapesAs (goto ctx) (Escapes ctx .page "goto") := by
  have hgoto : goto ctx = (do
      let url ← param ctx "url"
      let n ← (toInteger ((ctx.params.get? "timeout").getD (.int navigationTimeout))).mapError
        TemplateFault.integer
      return s!"{indent}await bs.page.goto( {url.script}, \x7b timeout: {number n} \x7d );") := by
    unfold goto
    dsimp only
    cases toInteger ((ctx.params.get? "timeout").getD (.int navigationTimeout)) with
    | ok n => rfl
    | error fault => rfl
  rw [hgoto]
  refine ((EscapesAs.of_documented (param_documented ctx "url")).bind
    fun url _ => (escapes_toInteger _).bind_pure).congr fun c => ?_
  simp only [false_or, param_eq_ok_iff, exists_and_right, Escapes]
  refine and_congr_right fun _ => ?_
  cases ctx.params.get? "timeout" with
  | some timeout => simp
  | none =>
    -- the time that is taken then is a number
    simp only [reduceCtorEq, false_and, exists_false, false_iff, Option.getD_none]
    intro h
    obtain ⟨_, hfault, -⟩ := h.exists_fault
    cases hfault

theorem escapes_setViewport (ctx : RenderContext) :
    EscapesAs (setViewport ctx) (Escapes ctx .page "setViewport") := by
  refine ((escapes_integerParam ctx "width").bind
    fun width _ => (escapes_integerParam ctx "height").bind_pure).congr fun c => ?_
  simp only [Escapes, integerParam_eq_ok_iff, ← exists_toInteger_iff]
  constructor
  · rintro ⟨rfl, h | ⟨⟨v, hv, n, hn⟩, h⟩⟩
    · exact .inl ⟨rfl, h⟩
    · exact .inr ⟨n, ⟨v, hv, hn⟩, rfl, h⟩
  · rintro (⟨rfl, h⟩ | ⟨n, ⟨v, hv, hn⟩, rfl, h⟩)
    · exact ⟨rfl, .inl h⟩
    · exact ⟨rfl, .inr ⟨⟨v, hv, n, hn⟩, h⟩⟩

theorem escapes_waitForTimeout (ctx : RenderContext) :
    EscapesAs (waitForTimeout ctx) (Escapes ctx .page "waitForTimeout") :=
  (escapes_integerParam ctx "value").bind_pure

theorem element_methods_documented {entry : String × Renderer} (hentry : entry ∈ elementRenderers)
    {name : String} (htarget : ctx.target = .text name) : FailsAsDocumented (entry.2 ctx) := by
  have helement := element_documented htarget
  have hasserted := assertedValue_documented ctx
  simp only [elementRenderers, List.mem_cons, List.not_mem_nil, or_false] at hentry
  rcases hentry with rfl | rfl | rfl | rfl | rfl | rfl
  · exact helement.bind fun _ => .pure _
  · exact helement.bind fun _ => (param_documented ctx "value").bind fun _ => .pure _
  · exact helement.bind fun _ => .pure _
  · exact helement.bind fun _ => .pure _
  · exact helement.bind fun _ => .pure _
  · exact hasserted.bind fun _ => helement.bind fun _ => .pure _

theorem escapes_of_mem {kind : TargetKind} {entry : String × Renderer}
    (hentry : entry ∈ schema.renderers kind) {name : String} (htarget : ctx.target = .text name) :
    EscapesAs (entry.2 ctx) (Escapes ctx kind entry.1) := by
  cases kind with
  | page =>
    simp only [Schema.renderers, schema, pageRenderers, List.mem_cons, List.not_mem_nil,
      or_false] at hentry
    rcases hentry with rfl | rfl | rfl | rfl | rfl | rfl
    · exact escapes_goto ctx
    · exact escapes_setViewport ctx
    · exact .of_documented (.pure _)
    · exact escapes_waitForTimeout ctx
    · exact .of_documented (.pure _)
    · exact .of_documented ((assertedValue_documented ctx).bind fun _ => .pure _)
  | element => exact .of_documented (element_methods_documented hentry htarget)

/-- **How the methods fail.**  A method of the built-in schema makes a text of a command whose target
is a text, or ends in an error of a key or of a value, if and only if its data do not escape; and
where they do, it ends in an error of the class in which they escape. -/
theorem fails_as_documented_iff {kind : TargetKind} {method : String} {renderer : Renderer}
    (hrenderer : schema.renderer? kind method = some renderer) {name : String}
    (htarget : ctx.target = .text name) :
    (FailsAsDocumented (renderer ctx) ↔ ∀ c, ¬ Escapes ctx kind method c) ∧
    ∀ c, Escapes ctx kind method c ↔
      ¬ c.IsDocumented ∧ ∃ fault, renderer ctx = .error fault ∧ fault.errorClass = c := by
  have hescapes := escapes_of_mem (mem_of_lookup hrenderer) htarget
  exact ⟨hescapes.failsAsDocumented_iff, hescapes⟩

/-- A command of the page with these parameters. -/
def onPage (method : String) (params : Fields) : RenderContext where
  target := .text "page"
  assertion := none
  params
  selector := .null
  method
  commandId := .text "c"
  testId := .text "t"

def infinite : Value := .float (.infinite false)

/-- The width is guarded and looked at first, so an infinite height does not come to bear. -/
theorem failure_of_null_width :
    schema.renderer? .page "setViewport" = some setViewport ∧
      FailsAsDocumented (setViewport
        (onPage "setViewport" [("width", .null), ("height", infinite)])) := by
  have hrenderer : schema.renderer? .page "setViewport" = some setViewport := rfl
  refine ⟨hrenderer, (fails_as_documented_iff hrenderer rfl).1.2 ?_⟩
  rintro c ⟨rfl, ⟨v, hv, h⟩ | ⟨⟨v, hv, hinteger⟩, -⟩⟩
  · obtain rfl := Option.some.inj hv
    exact h
  · obtain rfl := Option.some.inj hv
    exact hinteger

/-- A timeout of null is an error of its type, and an infinite time to wait one of overflow. -/
theorem undocumented_failures_of_numbers :
    (∃ fault, goto (onPage "goto" [("url", .text "u"), ("timeout", .null)]) = .error fault ∧
      fault.errorClass = .type) ∧
    ¬ FailsAsDocumented (goto (onPage "goto" [("url", .text "u"), ("timeout", .null)])) ∧
    (∃ fault, waitForTimeout (onPage "waitForTimeout" [("value", infinite)]) = .error fault ∧
      fault.errorClass = .overflow) ∧
    ¬ FailsAsDocumented (waitForTimeout (onPage "waitForTimeout" [("value", infinite)])) := by
  refine ⟨⟨_, rfl, rfl⟩, ?_, ⟨_, rfl, rfl⟩, ?_⟩
  · intro h
    exact absurd (FailsAsDocumented.error_iff.1 h) (by decide)
  · intro h
    exact absurd (FailsAsDocumented.error_iff.1 h) (by decide)

end Jest

end SuiteCompiler
