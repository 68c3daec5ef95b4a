/-
  SuiteCompiler/Proofs/Names.lean
  ===============================
  Which names that a source uses as identifiers are identifiers.

  The identifiers of scripts have starts and parts of their own: those of the Unicode
  properties `ID_Start` and `ID_Continue`, which hold more than `XID_Start` and
  `XID_Continue`, the dollar sign, and two joiners.  So whatever the templates of
  targets and of elements let through is an identifier name.  They let reserved words
  through as well, and tracing calls name the target of an assertion unchecked: the
  names of a source are identifiers if and only if none of the former is a reserved
  word and the latter are identifiers (`names_are_identifiers_iff`).
-/
import SuiteCompiler.Proofs.Segments

namespace SuiteCompiler

open Outcome Text

namespace Script

/-! ### Identifiers of scripts -/

/-- The code points with the property `ID_Start` that `XID_Start` leaves out, since their
compatibility decompositions start otherwise. -/
def compatibilityStarts : List (Nat × Nat) :=
  [(0x37A, 0x37A), (0xE33, 0xE33), (0xEB3, 0xEB3), (0x309B, 0x309C), (0xFC5E, 0xFC63),
   (0xFDFA, 0xFDFB), (0xFE70, 0xFE70), (0xFE72, 0xFE72), (0xFE74, 0xFE74), (0xFE76, 0xFE76),
   (0xFE78, 0xFE78), (0xFE7A, 0xFE7A), (0xFE7C, 0xFE7C), (0xFE7E, 0xFE7E), (0xFF9E, 0xFF9F)]

def isNameStart (c : Char) : Bool :=
  c = '$' || isIdentifierStart c || inRanges compatibilityStarts c.toNat

/-- A character that may stand in a name after the first place; the last two join letters without
being seen. -/
def isNamePart (c : Char) : Bool :=
  isNameStart c || inRanges identifierContinuations c.toNat || c = '\u200c' || c = '\u200d'

/-- An identifier name, written without escapes. -/
def isIdentifierName (s : String) : Bool :=
  match s.toList with
  | [] => false
  | c :: cs => isNameStart c && cs.all isNamePart

/-- The identifier names that are no identifiers. -/
def reservedWords : List String :=
  ["await", "break", "case", "catch", "class", "const", "continue", "debugger", "default", "delete",
   "do", "else", "enum", "export", "extends", "false", "finally", "for", "function", "if", "import",
   "in", "instanceof", "new", "null", "return", "super", "switch", "this", "throw", "true", "try",
   "typeof", "var", "void", "while", "with", "yield"]

structure IsName (s : String) : Prop where
  isIdentifierName : isIdentifierName s = true
  notReserved : s ∉ reservedWords

instance (s : String) : Decidable (IsName s) :=
  decidable_of_iff (isIdentifierName s = true ∧ s ∉ reservedWords)
    ⟨fun ⟨hname, hreserved⟩ => ⟨hname, hreserved⟩, fun h => ⟨h.isIdentifierName, h.notReserved⟩⟩

/-- What starts or continues an identifier of a target does so in a script. -/
theorem isNamePart_of_isIdentifierPart {c : Char} (h : isIdentifierPart c = true) :
    isNamePart c = true := by
  unfold isIdentifierPart at h
  unfold isNamePart isNameStart
  rcases Bool.or_eq_true_iff.1 h with hstart | hcontinues
  · simp [hstart]
  · simp [hcontinues]

theorem isIdentifierName_of_isIdentifier {s : String} (h : isIdentifier s = true) :
    isIdentifierName s = true := by
  unfold isIdentifier at h
  unfold isIdentifierName
  generalize s.toList = cs at h ⊢
  cases cs with
  | nil => cases h
  | cons first rest =>
    obtain ⟨hfirst, hrest⟩ := Bool.and_eq_true_iff.1 h
    have hstart : isNameStart first = true := by simp [isNameStart, hfirst]
    have hparts : rest.all isNamePart = true := by
      rw [List.all_eq_true] at hrest ⊢
      exact fun c hc => isNamePart_of_isIdentifierPart (hrest c hc)
    simp [hstart, hparts]

/-- A name that has been checked is an identifier unless it is reserved. -/
theorem isName_iff_of_isIdentifier {s : String} (h : isIdentifier s = true) :
    IsName s ↔ s ∉ reservedWords :=
  ⟨IsName.notReserved, fun hreserved => ⟨isIdentifierName_of_isIdentifier h, hreserved⟩⟩

/-- What a segment has to do with names. -/
def Segment.NamesIdentifier : Segment → Prop
  | name v => IsName v.display
  | _ => True

theorem forall_mem_namesIdentifier_iff {segments : List Segment} :
    (∀ s ∈ segments, s.NamesIdentifier) ↔ ∀ v, .name v ∈ segments → IsName v.display := by
  constructor
  · intro h v hmem
    exact h _ hmem
  · intro h s hs
    cases s with
    | code text => trivial
    | name v => exact h v hs
    | enclosed ctx body => trivial

end Script

namespace Jest

open Generator Script

/-! ### Names of a suite -/

/-- No target is named by a reserved word, and what tracing calls name beside it is an
identifier. -/
structure NamesIdentifiers (g : Generator) : Prop where
  declarations : ∀ t ∈ g.resolver.declarations, t.name.display ∉ reservedWords
  targets : ∀ c ∈ g.reached, c.kind = .element → c.target.display ∉ reservedWords
  secondTargets : g.options.trace = true → ∀ c ∈ g.reached, c.kind = .element →
    c.secondTarget.isTruthy = true → IsName c.secondTarget.display

theorem holds_namesIdentifier_iff {g : Generator}
    (hdeclared : ∀ t ∈ g.resolver.declarations,
      ∃ name, t.name = .text name ∧ isIdentifier name = true)
    (hnames : ∀ c ∈ g.reached, c.kind = .element → NamesElement c) :
    Holds Segment.NamesIdentifier g ↔ NamesIdentifiers g := by
  have hchecked : ∀ v : Value, (∃ name, v = .text name ∧ isIdentifier name = true) →
      (IsName v.display ↔ v.display ∉ reservedWords) := by
    rintro v ⟨name, rfl, hname⟩
    exact isName_iff_of_isIdentifier hname
  constructor
  · intro h
    refine ⟨fun t ht => ?_, fun c hc hkind => ?_, fun htrace c hc hkind hsecond => ?_⟩
    · exact (hchecked t.name (hdeclared t ht)).1 (h.declarations t ht)
    · exact (hchecked c.target (hnames c hc hkind)).1 ((h.commands c hc).target hkind)
    · have htraced := Instrumentation.mem_tracedTargets_iff.2 (Or.inr ⟨hsecond, rfl⟩)
      exact ((h.commands c hc).entries htrace hkind _ htraced).2
  · intro h
    have htarget : ∀ c ∈ g.reached, c.kind = .element → IsName c.target.display :=
      fun c hc hkind => (hchecked c.target (hnames c hc hkind)).2 (h.targets c hc hkind)
    refine ⟨trivial, fun t ht => ?_, fun _ _ => ⟨trivial, trivial⟩, fun c hc => ?_⟩
    · exact (hchecked t.name (hdeclared t ht)).2 (h.declarations t ht)
    · refine ⟨fun _ => trivial, htarget c hc, fun _ _ => trivial, fun _ => trivial,
        fun htrace hkind v hv => ⟨trivial, ?_⟩, fun _ => trivial⟩
      rcases Instrumentation.mem_tracedTargets_iff.1 hv with rfl | ⟨hsecond, rfl⟩
      · exact htarget c hc hkind
      · exact h.secondTargets htrace c hc hkind hsecond

theorem forall_name_iff {g : Generator} (hschema : g.schema = schema) {r : Fragment}
    (h : g.generate.outcome = .ok r) :
    (∀ v, .name v ∈ segments g → IsName v.display) ↔ NamesIdentifiers g := by
  rw [← forall_mem_namesIdentifier_iff, forall_mem_segments fun _ => trivial]
  exact holds_namesIdentifier_iff ((exists_generate_iff hschema).1 ⟨r, h⟩).2
    fun c hc => namesElement_of_generate hschema h hc

/-- **When names are identifiers.**  A generated source is put together of the segments of its
suite, and every name among them is an identifier of scripts if and only if no target that it
declares or calls is a reserved word and, in tracing calls, every target of an assertion is an
identifier. -/
theorem names_are_identifiers_iff {g : Generator} (hschema : g.schema = schema) {r : Fragment}
    (h : g.generate.outcome = .ok r) :
    sourceOf (segments g) = r.text ∧
      ((∀ v, .name v ∈ segments g → IsName v.display) ↔ NamesIdentifiers g) :=
  ⟨sourceOf_segments hschema h, forall_name_iff hschema h⟩

/-- A suite of one target and one traced command on it, whose assertion names another. -/
def assertingInput (target second : String) : GeneratorInput where
  suite :=
    { title := .text "Shop"
      targets := [(.text target, .make (.text target) (.text "#buy") .empty)]
      groups := [
        ("g", {
          id := "g", title := .text "Cart", disabled := false
          tests := [
            ("t", {
              id := "t", title := .text "Pays", disabled := false
              commands := [
                { Command.acting "c" target "assertVisible" "g" "t" with
                  assertion := some [("target", .text second)] }] })] })] }
  snippets := { targets := [], tests := [] }
  schema
  options := { trace := true }

def asserting (target second : String)
    (h : (assertingInput target second).resolver.selectorTable =
      .ok [(.text target, .text "#buy")]) : Generator :=
  { assertingInput target second with
    selectors := [(.text target, .text "#buy")]
    selectors_eq := h }

theorem names_of_asserting :
    ∃ r, (asserting "købe_1" "$title" rfl).generate.outcome = .ok r ∧
      sourceOf (segments (asserting "købe_1" "$title" rfl)) = r.text ∧
      ∀ v, .name v ∈ segments (asserting "købe_1" "$title" rfl) → IsName v.display := by
  have hids : (asserting "købe_1" "$title" rfl).generate.outcome.map Fragment.interactiveIds =
      .ok [] := rfl
  obtain ⟨r, hr, -⟩ := Outcome.map_eq_ok_iff.1 hids
  have hnames : NamesIdentifiers (asserting "købe_1" "$title" rfl) := by
    constructor
    · decide
    · decide
    · decide +kernel
  obtain ⟨hsource, hiff⟩ := names_are_identifiers_iff rfl hr
  exact ⟨r, hr, hsource, hiff.2 hnames⟩

/-- A generation succeeds, and the source uses what is no identifier as one. -/
def Misnames (g : Generator) : Prop :=
  ∃ r, g.generate.outcome = .ok r ∧ ∃ v, .name v ∈ segments g ∧ ¬ IsName v.display

theorem misnames_of_not {g : Generator} (hschema : g.schema = schema)
    (hids : g.generate.outcome.map Fragment.interactiveIds = .ok []) (h : ¬ NamesIdentifiers g) :
    Misnames g := by
  obtain ⟨r, hr, -⟩ := Outcome.map_eq_ok_iff.1 hids
  refine ⟨r, hr, ?_⟩
  rw [← forall_name_iff hschema hr] at h
  simpa using h

/-- A reserved word is declared and called, and a tracing call names what is no identifier. -/
theorem names_that_are_no_identifiers :
    Misnames (asserting "class" "title" rfl) ∧ Misnames (asserting "BUY" "the title" rfl) := by
  constructor
  · refine misnames_of_not rfl rfl fun h => ?_
    exact absurd (h.declarations _ (List.mem_singleton_self _)) (by decide)
  · refine misnames_of_not rfl rfl fun h => ?_
    exact absurd (h.secondTargets rfl _ (List.mem_singleton_self _) rfl rfl) (by decide +kernel)

end Jest

end SuiteCompiler
