/-
  SuiteCompiler/Proofs/Statements.lean
  ====================================
  What the built-in methods write: each command becomes one statement on one line.

  A statement starts with white space and an `await` or an `expect`, whatever its
  command holds, so it can be told from every other line of the source.  User texts
  come into a statement as JSON, as identifiers, or as the ids of a comment.
-/
import SuiteCompiler.Proofs.Json
import SuiteCompiler.Proofs.WellFormed

namespace SuiteCompiler.Jest

open Outcome Text

/-- A statement of a test, on one line. -/
structure IsStatement (text : String) : Prop where
  oneLine : OneLine text
  starts : Starts "      await " text ∨ Starts "      expect( " text

/-! ### Parts -/

theorem oneLine_indent : OneLine indent := by decide

@[simp] theorem oneLine_number (n : Int) : OneLine (number n) := by
  intro hnewline
  rw [number, String.toList_ofList] at hnewline
  exact absurd (Number.plain_decimal n '\n' hnewline).1 (by decide)

/-- An identifier has only characters that identifiers may have. -/
theorem notMem_of_isIdentifier {name : String} (h : isIdentifier name = true) {c : Char}
    (hc : isIdentifierPart c = false) : c ∉ name.toList := by
  intro hmem
  unfold isIdentifier at h
  split at h
  · cases h
  · rename_i first rest hname
    rw [hname] at hmem
    rw [Bool.and_eq_true, List.all_eq_true] at h
    rcases List.mem_cons.1 hmem with rfl | hrest
    · simp [isIdentifierPart, h.1] at hc
    · simp [h.2 _ hrest] at hc

theorem oneLine_of_isIdentifier {name : String} (h : isIdentifier name = true) : OneLine name :=
  notMem_of_isIdentifier h (by decide +kernel)

theorem oneLine_element {ctx : RenderContext} {text : String} (h : element ctx = .ok text) :
    OneLine text := by
  obtain ⟨name, -, hname, rfl⟩ := element_eq_ok_iff.1 h
  exact (oneLine_ofList.2 (by decide)).fill (oneLine_of_isIdentifier hname) (by decide)

/-! ### Templates -/

/-- The literal that a template starts with, after the white space. -/
theorem isStatement_head {cs : List Char} (hline : '\n' ∉ cs)
    (hstarts : "await ".toList <+: cs ∨ "expect( ".toList <+: cs) :
    IsStatement (indent ++ String.ofList cs) := by
  refine ⟨oneLine_append.2 ⟨oneLine_indent, oneLine_ofList.2 hline⟩, ?_⟩
  have hawait : "      await " = indent ++ String.ofList "await ".toList := rfl
  have hexpect : "      expect( " = indent ++ String.ofList "expect( ".toList := rfl
  rw [hawait, hexpect, starts_append_left, starts_append_left, starts_ofList, starts_ofList]
  exact hstarts

namespace IsStatement

theorem append {text rest : String} (h : IsStatement text) (hrest : OneLine rest) :
    IsStatement (text ++ rest) :=
  ⟨oneLine_append.2 ⟨h.oneLine, hrest⟩, h.starts.imp (·.append rest) (·.append rest)⟩

/-- A value, and the literal that a template has after it. -/
theorem fill {text value : String} {cs : List Char} (h : IsStatement text) (hvalue : OneLine value)
    (hline : '\n' ∉ cs) : IsStatement (text ++ value ++ String.ofList cs) :=
  (h.append hvalue).append (oneLine_ofList.2 hline)

end IsStatement

/-! ### Methods -/

section Methods

variable {ctx : RenderContext} {text : String}

theorem isStatement_goto (h : goto ctx = .ok text) : IsStatement text := by
  obtain ⟨url, n, -, -, rfl⟩ := goto_eq_ok_iff.1 h
  exact ((isStatement_head (by decide) (by decide)).fill (Value.oneLine_script url)
    (by decide)).fill (oneLine_number n) (by decide)

theorem isStatement_setViewport (h : setViewport ctx = .ok text) : IsStatement text := by
  obtain ⟨width, height, -, -, rfl⟩ := setViewport_eq_ok_iff.1 h
  exact ((isStatement_head (by decide) (by decide)).fill (oneLine_number width)
    (by decide)).fill (oneLine_number height) (by decide)

theorem isStatement_screenshot (h : screenshot ctx = .ok text) : IsStatement text := by
  obtain rfl := screenshot_eq_ok_iff.1 h
  exact (isStatement_head (by decide) (by decide)).fill (Value.oneLine_script _) (by decide)

theorem isStatement_waitForTimeout (h : waitForTimeout ctx = .ok text) : IsStatement text := by
  obtain ⟨n, -, rfl⟩ := waitForTimeout_eq_ok_iff.1 h
  exact (isStatement_head (by decide) (by decide)).fill (oneLine_number n) (by decide)

theorem isStatement_reload (h : reload ctx = .ok text) : IsStatement text := by
  obtain rfl := reload_eq_ok_iff.1 h
  exact isStatement_head (by decide) (by decide)

theorem isStatement_assertTitle (h : assertTitle ctx = .ok text) : IsStatement text := by
  obtain ⟨v, -, rfl⟩ := assertTitle_eq_ok_iff.1 h
  exact (isStatement_head (by decide) (by decide)).fill (Value.oneLine_script v) (by decide)

theorem isStatement_click (h : click ctx = .ok text) : IsStatement text := by
  obtain ⟨e, he, rfl⟩ := click_eq_ok_iff.1 h
  exact (isStatement_head (by decide) (by decide)).fill (oneLine_element he) (by decide)

theorem isStatement_typeText (h : typeText ctx = .ok text) : IsStatement text := by
  obtain ⟨e, v, he, -, rfl⟩ := typeText_eq_ok_iff.1 h
  exact ((isStatement_head (by decide) (by decide)).fill (oneLine_element he)
    (by decide)).fill (Value.oneLine_script v) (by decide)

theorem isStatement_focus (h : focus ctx = .ok text) : IsStatement text := by
  obtain ⟨e, he, rfl⟩ := focus_eq_ok_iff.1 h
  exact (isStatement_head (by decide) (by decide)).fill (oneLine_element he) (by decide)

theorem isStatement_hover (h : hover ctx = .ok text) : IsStatement text := by
  obtain ⟨e, he, rfl⟩ := hover_eq_ok_iff.1 h
  exact (isStatement_head (by decide) (by decide)).fill (oneLine_element he) (by decide)

theorem isStatement_assertVisible (htest : OneLine ctx.testId.display)
    (hcommand : OneLine ctx.commandId.display) (h : assertVisible ctx = .ok text) :
    IsStatement text := by
  obtain ⟨e, he, rfl⟩ := assertVisible_eq_ok_iff.1 h
  exact (((isStatement_head (by decide) (by decide)).fill (oneLine_element he)
    (by decide)).fill htest (by decide)).append hcommand

theorem isStatement_assertText (h : assertText ctx = .ok text) : IsStatement text := by
  obtain ⟨v, e, -, he, rfl⟩ := assertText_eq_ok_iff.1 h
  exact ((isStatement_head (by decide) (by decide)).fill (oneLine_element he)
    (by decide)).fill (Value.oneLine_script v) (by decide)

/-- Whatever built-in method a command has, its text is a statement. -/
theorem isStatement_of_renderer? {kind : TargetKind} {method : String} {renderer : Renderer}
    (hr : schema.renderer? kind method = some renderer) (htest : OneLine ctx.testId.display)
    (hcommand : OneLine ctx.commandId.display) (h : renderer ctx = .ok text) :
    IsStatement text := by
  have hmem : (method, renderer) ∈ schema.renderers kind := mem_of_lookup hr
  cases kind with
  | page =>
    simp only [Schema.renderers, schema, pageRenderers, List.mem_cons, Prod.mk.injEq,
      List.not_mem_nil, or_false] at hmem
    rcases hmem with ⟨-, rfl⟩ | ⟨-, rfl⟩ | ⟨-, rfl⟩ | ⟨-, rfl⟩ | ⟨-, rfl⟩ | ⟨-, rfl⟩
    · exact isStatement_goto h
    · exact isStatement_setViewport h
    · exact isStatement_screenshot h
    · exact isStatement_waitForTimeout h
    · exact isStatement_reload h
    · exact isStatement_assertTitle h
  | element =>
    simp only [Schema.renderers, schema, elementRenderers, List.mem_cons, Prod.mk.injEq,
      List.not_mem_nil, or_false] at hmem
    rcases hmem with ⟨-, rfl⟩ | ⟨-, rfl⟩ | ⟨-, rfl⟩ | ⟨-, rfl⟩ | ⟨-, rfl⟩ | ⟨-, rfl⟩
    · exact isStatement_click h
    · exact isStatement_typeText h
    · exact isStatement_focus h
    · exact isStatement_hover h
    · exact isStatement_assertVisible htest hcommand h
    · exact isStatement_assertText h

end Methods

/-- A supported command becomes a statement, if its ids are on one line. -/
theorem isStatement_commandText {g : Generator} (hschema : g.schema = schema) {c : Command}
    (hserves : g.schema.serves c = true) (htest : OneLine c.testId.display) (hid : OneLine c.id)
    {text : String} (h : g.commandText c = .ok text) : IsStatement text := by
  obtain ⟨method, renderer, hmethod, hr⟩ := Schema.serves_iff.1 hserves
  rw [Generator.commandText_eq hmethod hr] at h
  obtain ⟨selector, -, h⟩ := bind_eq_ok_iff.1 h
  rw [hschema] at hr
  exact @isStatement_of_renderer? (Generator.context c selector method) text _ _ _ hr htest hid h

end SuiteCompiler.Jest
