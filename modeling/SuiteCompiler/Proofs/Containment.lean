/-
  SuiteCompiler/Proofs/Containment.lean
  =====================================
  Which texts stay inside the comments and literals that hold them.

  Seven kinds of text are written as they stand, in four lexical contexts: the title of
  the suite in a block comment; titles of snippets, the ids of markers and those after
  an assertion in comments of a line; ids and targets of tracing calls in quoted
  literals; and the id of a wait in a template.  Nothing checks these texts.  A source
  keeps all of them where they were put if and only if every one of them fits the
  context that it stands in (`texts_stay_inside_iff`), and then each is read as it was
  given.  The first target of a tracing call always fits, being an identifier.
-/
import SuiteCompiler.Proofs.Segments

namespace SuiteCompiler

open Outcome Text

namespace Script

/-! ### Texts that fit a context -/

namespace Context

/-- A text can stand in a comment or a literal as it is. -/
def Fits (ctx : Context) (s : String) : Prop := ctx.admits s.toList = true

instance (ctx : Context) (s : String) : Decidable (ctx.Fits s) :=
  inferInstanceAs (Decidable (_ = _))

/-- A text between two others that have nothing to do with it. -/
theorem fits_fill {ctx : Context} {before after : String} (hbefore : ctx.Fits before)
    (hafter : ctx.Fits after)
    (hlast : ∀ c ∈ before.toList.getLast?, ∀ next, ctx.isPlain c next = ctx.isPlain c none)
    (hhead : ∀ c, ctx.isPlain c after.toList.head? = ctx.isPlain c none) (s : String) :
    ctx.Fits (before ++ s ++ after) ↔ ctx.Fits s := by
  unfold Fits at hbefore hafter ⊢
  rw [String.toList_append, String.toList_append, admits_append fun c _ => hhead c,
    admits_append fun c hc => hlast c hc _, hbefore, hafter, Bool.true_and, Bool.and_true]

/-- In a comment of a line a character is plain or not by itself. -/
theorem fits_line_append (s t : String) : line.Fits (s ++ t) ↔ line.Fits s ∧ line.Fits t := by
  unfold Fits
  rw [String.toList_append, admits_append fun _ _ => rfl, Bool.and_eq_true]

theorem fits_of_forall {ctx : Context} {s : String}
    (h : ∀ c ∈ s.toList, ∀ next, ctx.isPlain c next = true) : ctx.Fits s := by
  unfold Fits
  generalize s.toList = cs at h
  induction cs with
  | nil => rfl
  | cons c cs ih =>
    rw [admits_cons, h c List.mem_cons_self, Bool.true_and]
    exact ih fun d hd => h d (List.mem_cons_of_mem c hd)

end Context

/-! ### Scripts that keep their texts -/

/-- Every enclosed text of a script is read, from its opening on, up to the closing that was
written for it, and denotes itself. -/
def Contained (segments : List Segment) : Prop :=
  ∀ before ctx body after rest, segments = before ++ .enclosed ctx body :: after →
    (sourceOf segments).toList = (sourceOf before).toList ++ (ctx.opening ++ rest) →
      ctx.read rest = some (units body.toList, (sourceOf after).toList)

/-- What comes after the opening of an enclosed text. -/
theorem toList_sourceOf_split (before : List Segment) (ctx : Context) (body : String)
    (after : List Segment) :
    (sourceOf (before ++ .enclosed ctx body :: after)).toList =
      (sourceOf before).toList ++
        (ctx.opening ++ (body.toList ++ (ctx.closing ++ (sourceOf after).toList))) := by
  simp [sourceOf_append, sourceOf, Segment.text]

theorem contained_iff {segments : List Segment} :
    Contained segments ↔ ∀ ctx body, .enclosed ctx body ∈ segments → ctx.Fits body := by
  constructor
  · intro h ctx body hmem
    obtain ⟨before, after, rfl⟩ := List.append_of_mem hmem
    exact (Context.read_eq_iff _).1 (h before ctx body after _ rfl (toList_sourceOf_split ..))
  · rintro h before ctx body after rest rfl hrest
    rw [toList_sourceOf_split] at hrest
    obtain rfl := List.append_cancel_left (List.append_cancel_left hrest)
    exact (Context.read_eq_iff _).2 (h ctx body (by simp))

/-- What a segment has to do with containment. -/
def Segment.Fits : Segment → Prop
  | enclosed ctx body => ctx.Fits body
  | _ => True

theorem forall_mem_fits_iff {segments : List Segment} :
    (∀ s ∈ segments, s.Fits) ↔ ∀ ctx body, .enclosed ctx body ∈ segments → ctx.Fits body := by
  constructor
  · intro h ctx body hmem
    exact h _ hmem
  · intro h s hs
    cases s with
    | code text => trivial
    | name v => trivial
    | enclosed ctx body => exact h ctx body hs

end Script

namespace Jest

open Generator Script

/-! ### Texts of a suite -/

theorem fits_headerComment (g : Generator) :
    Context.block.Fits (headerComment g) ↔ Context.block.Fits g.suite.title.display := by
  refine Context.fits_fill ?_ ?_ ?_ ?_ g.suite.title.display
  · decide
  · cases g.runner <;> decide
  · intro c hc next
    obtain rfl : ' ' = c := Option.some.inj hc
    rfl
  · intro c
    have hhead : ("\n" ++ runnerLine g.runner ++ "\n ").toList.head? = some '\n' := by
      cases g.runner <;> rfl
    rw [hhead]
    simp [Context.isPlain]

theorem fits_fenceComment (title : Value) {place : String} (hplace : Context.line.Fits place) :
    Context.line.Fits (fenceComment title place) ↔ Context.line.Fits title.display := by
  have hhead : Context.line.Fits " SNIPPET " := by decide
  unfold fenceComment
  simp only [toString_text, Context.fits_line_append, hhead, hplace, true_and, and_true]

theorem fits_assertionComment (c : Command) :
    Context.line.Fits (assertionComment c) ↔
      Context.line.Fits c.testId.display ∧ Context.line.Fits c.id := by
  have hhead : Context.line.Fits " " := by decide
  have hcolon : Context.line.Fits ":" := by decide
  unfold assertionComment
  simp only [toString_text, Context.fits_line_append, hhead, hcolon, true_and, and_true]

theorem fits_markerComment (c : Command) :
    Context.line.Fits (markerComment c) ↔ Context.line.Fits c.groupId.display ∧
      Context.line.Fits c.testId.display ∧ Context.line.Fits c.id := by
  have hhead : Context.line.Fits " COMMAND_ID: " := by decide
  have hcolon : Context.line.Fits ":" := by decide
  unfold markerComment
  simp only [toString_text, Context.fits_line_append, hhead, hcolon, true_and, and_true, and_assoc]

theorem fits_waitSelector (id : String) :
    Context.template.Fits (waitSelector id) ↔ Context.template.Fits id := by
  refine Context.fits_fill ?_ ?_ ?_ ?_ id
  · decide
  · decide
  · intro c hc next
    obtain rfl : '"' = c := Option.some.inj hc
    rfl
  · intro c
    simp [Context.isPlain]

theorem fits_quoted_of_isIdentifier {name : String} (h : isIdentifier name = true) :
    Context.quoted.Fits name := by
  refine Context.fits_of_forall fun c hc next => ?_
  have hne : ∀ d, isIdentifierPart d = false → c ≠ d := by
    rintro d hd rfl
    exact notMem_of_isIdentifier h hd hc
  have hquote : c ≠ '"' := hne '"' (by decide +kernel)
  have hfeed : c ≠ '\n' := hne '\n' (by decide +kernel)
  have hreturn : c ≠ '\r' := hne '\r' (by decide +kernel)
  have hbackslash : c ≠ '\\' := hne '\\' (by decide +kernel)
  simp [Context.isPlain, hquote, hfeed, hreturn, hbackslash]

/-- Every text of a suite that is written as it stands fits where it stands. -/
structure StaysInside (g : Generator) : Prop where
  title : Context.block.Fits g.suite.title.display
  snippets : ∀ p ∈ g.inlined, Context.line.Fits p.2.title.display
  markers : g.runner = .embedded → ∀ c ∈ g.reached, Context.line.Fits c.groupId.display ∧
    Context.line.Fits c.testId.display ∧ Context.line.Fits c.id
  assertions : ∀ c ∈ g.reached, c.kind = .element → c.method = .text "assertVisible" →
    Context.line.Fits c.testId.display ∧ Context.line.Fits c.id
  traces : g.options.trace = true → ∀ c ∈ g.reached, Context.quoted.Fits c.id
  secondTargets : g.options.trace = true → ∀ c ∈ g.reached, c.kind = .element →
    c.secondTarget.isTruthy = true → Context.quoted.Fits c.secondTarget.display
  waits : ∀ c ∈ g.reached, g.stopsAfter c = true → Context.template.Fits c.id

theorem holds_fits_iff {g : Generator} (hnames : ∀ c ∈ g.reached, c.kind = .element → NamesElement c) :
    Holds Segment.Fits g ↔ StaysInside g := by
  have hstart : Context.line.Fits ": START" := by decide
  have hend : Context.line.Fits ": END" := by decide
  constructor
  · intro h
    refine ⟨(fits_headerComment g).1 h.header, fun p hp => ?_, fun hrunner c hc => ?_,
      fun c hc hkind hmethod => ?_, fun htrace c hc => ?_, fun htrace c hc hkind hsecond => ?_,
      fun c hc hstops => ?_⟩
    · exact (fits_fenceComment p.2.title hstart).1 (h.snippets p hp).1
    · exact (fits_markerComment c).1 ((h.commands c hc).marker hrunner)
    · exact (fits_assertionComment c).1 ((h.commands c hc).assertion hkind hmethod)
    · exact (h.commands c hc).trace htrace
    · have htraced := Instrumentation.mem_tracedTargets_iff.2 (Or.inr ⟨hsecond, rfl⟩)
      exact ((h.commands c hc).entries htrace hkind _ htraced).1
    · exact (fits_waitSelector c.id).1 ((h.commands c hc).wait hstops)
  · intro h
    refine ⟨(fits_headerComment g).2 h.title, fun _ _ => trivial, fun p hp => ?_, fun c hc => ?_⟩
    · have htitle := h.snippets p hp
      exact ⟨(fits_fenceComment p.2.title hstart).2 htitle,
        (fits_fenceComment p.2.title hend).2 htitle⟩
    · refine ⟨fun hrunner => ?_, fun _ => trivial, fun hkind hmethod => ?_, fun htrace => ?_,
        fun htrace hkind v hv => ⟨?_, trivial⟩, fun hstops => ?_⟩
      · exact (fits_markerComment c).2 (h.markers hrunner c hc)
      · exact (fits_assertionComment c).2 (h.assertions c hc hkind hmethod)
      · exact h.traces htrace c hc
      · rcases Instrumentation.mem_tracedTargets_iff.1 hv with rfl | ⟨hsecond, rfl⟩
        · obtain ⟨name, htarget, hname⟩ := hnames c hc hkind
          rw [htarget]
          exact fits_quoted_of_isIdentifier hname
        · exact h.secondTargets htrace c hc hkind hsecond
      · exact (fits_waitSelector c.id).2 (h.waits c hc hstops)

/-- **When texts stay inside.**  A generated source is put together of the segments of its suite, and
every comment and every literal among them that holds a text as it stands ends where it was closed
and denotes this text, if and only if every such text fits where it stands. -/
theorem texts_stay_inside_iff {g : Generator} (hschema : g.schema = schema) {r : Fragment}
    (h : g.generate.outcome = .ok r) :
    sourceOf (segments g) = r.text ∧ (Contained (segments g) ↔ StaysInside g) := by
  refine ⟨sourceOf_segments hschema h, ?_⟩
  rw [contained_iff, ← forall_mem_fits_iff, forall_mem_segments fun _ => trivial]
  exact holds_fits_iff fun c hc => namesElement_of_generate hschema h hc

/-- A suite with quotes, backslashes and the ends of comments in texts where they do no harm, traced
and interactive, for the embedded runner. -/
def punctuatedInput : GeneratorInput where
  suite :=
    { title := .text "The \"Shop\" \\ *\n / \x60all\x60"
      targets := [(.text "BUY", .make (.text "BUY") (.text "#buy") .empty)]
      groups := [
        ("g", {
          id := "g */", title := .text "Cart", disabled := false
          tests := [
            ("t", {
              id := "\"t\"", title := .text "Pays", disabled := false
              commands := [.acting "c1" "BUY" "assertVisible" "g */" "\"t\"",
                .referring "c2" "login" "g */" "\"t\""] })] })] }
  snippets :=
    { targets := []
      tests := [
        ("login", {
          id := "login", title := .text "Log \\ \"in\" */", disabled := false
          commands := [.acting "*/ s1" "page" "reload" "snippets" "login"] })] }
  schema
  runner := .embedded
  options := { trace := true, interactiveMode := true }

def punctuated : Generator :=
  { punctuatedInput with selectors := [(.text "BUY", .text "#buy")], selectors_eq := rfl }

theorem punctuated_stays_inside :
    ∃ r, punctuated.generate.outcome = .ok r ∧ sourceOf (segments punctuated) = r.text ∧
      Contained (segments punctuated) := by
  have hids : punctuated.generate.outcome.map Fragment.interactiveIds = .ok ["c1", "*/ s1"] := rfl
  obtain ⟨r, hr, -⟩ := Outcome.map_eq_ok_iff.1 hids
  have hreached : punctuated.reached = [.acting "c1" "BUY" "assertVisible" "g */" "\"t\"",
    .acting "*/ s1" "page" "reload" "snippets" "login"] := rfl
  have hinside : StaysInside punctuated := by
    constructor
    · decide
    · intro p hp
      obtain rfl := List.mem_singleton.1 hp
      decide
    · rw [hreached]
      decide
    · rw [hreached]
      decide
    · rw [hreached]
      decide
    · rw [hreached]
      decide
    · rw [hreached]
      decide
  obtain ⟨hsource, hcontained⟩ := texts_stay_inside_iff rfl hr
  exact ⟨r, hr, hsource, hcontained.2 hinside⟩

/-- A suite that refers to a snippet of one command of the page, traced and interactive. -/
def inliningInput (title snippetTitle id : String) : GeneratorInput where
  suite :=
    { title := .text title
      targets := []
      groups := [
        ("g", {
          id := "g", title := .text "Account", disabled := false
          tests := [
            ("t", {
              id := "t", title := .text "Signs in", disabled := false
              commands := [.referring "c" "login" "g" "t"] })] })] }
  snippets :=
    { targets := []
      tests := [
        ("login", {
          id := "login", title := .text snippetTitle, disabled := false
          commands := [.acting id "page" "reload" "snippets" "login"] })] }
  schema
  options := { trace := true, interactiveMode := true }

def inlining (title snippetTitle id : String) : Generator :=
  { inliningInput title snippetTitle id with selectors := [], selectors_eq := rfl }

/-- A generation succeeds, and a text does not stay where it was put. -/
def LosesText (g : Generator) : Prop := ∃ r, g.generate.outcome = .ok r ∧ ¬ Contained (segments g)

theorem losesText_inlining {title snippetTitle id : String}
    (h : ¬ StaysInside (inlining title snippetTitle id)) :
    LosesText (inlining title snippetTitle id) := by
  have hids : (inlining title snippetTitle id).generate.outcome.map Fragment.interactiveIds =
      .ok [id] := rfl
  obtain ⟨r, hr, -⟩ := Outcome.map_eq_ok_iff.1 hids
  refine ⟨r, hr, fun hcontained => h ?_⟩
  rw [contained_iff, ← forall_mem_fits_iff, forall_mem_segments fun _ => trivial] at hcontained
  exact (holds_fits_iff fun c hc => namesElement_of_generate rfl hr hc).1 hcontained

/-- A text leaves each of the four contexts: a title its block comment, the title of a snippet the
comment of a line, an id the literal of a trace, and an id the template of a wait. -/
theorem texts_leave_their_places :
    LosesText (inlining "Shop */" "Login" "c") ∧ LosesText (inlining "Shop" "Log\nin" "c") ∧
      LosesText (inlining "Shop" "Login" "\"") ∧ LosesText (inlining "Shop" "Login" "\x60") := by
  refine ⟨losesText_inlining fun h => ?_, losesText_inlining fun h => ?_,
    losesText_inlining fun h => ?_, losesText_inlining fun h => ?_⟩
  · exact absurd h.title (by decide)
  · exact absurd (h.snippets _ (List.mem_singleton_self _)) (by decide)
  · exact absurd (h.traces rfl _ (List.mem_singleton_self _)) (by decide)
  · exact absurd (h.waits _ (List.mem_singleton_self _) rfl) (by decide)

end Jest

end SuiteCompiler
