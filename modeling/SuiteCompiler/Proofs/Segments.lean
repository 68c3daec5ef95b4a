/-
  SuiteCompiler/Proofs/Segments.lean
  ==================================
  The source of a suite as code, names, and texts that are enclosed as they are.

  Most of what a suite holds is written as JSON.  `segments` follows the tree of the
  suite and keeps apart what is not: names of targets that stand as identifiers, and
  texts in comments and literals.  Put together again the segments are the source,
  whatever characters the texts have (`sourceOf_segments`).  What is to be said about
  names and enclosed texts then comes down to a few places of the suite
  (`forall_mem_segments`).
-/
import SuiteCompiler.Proofs.Fences
import SuiteCompiler.Proofs.Lexemes

namespace SuiteCompiler

open Outcome Text

namespace Script

/-! ### Segments -/

/-- A piece of a script. -/
inductive Segment where
  /-- Code in which no text stands as it is. -/
  | code (text : String)
  /-- A value whose text stands as an identifier. -/
  | name (v : Value)
  /-- A comment or a literal, and the text in it. -/
  | enclosed (ctx : Context) (body : String)
  deriving DecidableEq

def Segment.text : Segment → String
  | code text => text
  | name v => v.display
  | enclosed ctx body => String.ofList ctx.opening ++ body ++ String.ofList ctx.closing

/-- The script that segments are pieces of. -/
def sourceOf : List Segment → String
  | [] => ""
  | s :: rest => s.text ++ sourceOf rest

theorem sourceOf_append (xs ys : List Segment) :
    sourceOf (xs ++ ys) = sourceOf xs ++ sourceOf ys := by
  induction xs with
  | nil => simp [sourceOf]
  | cons s xs ih => simp only [List.cons_append, sourceOf, ih, String.append_assoc]

namespace Segment

@[simp] theorem text_code (text : String) : (code text).text = text := rfl

@[simp] theorem text_name (v : Value) : (name v).text = v.display := rfl

@[simp] theorem text_block (body : String) : (enclosed .block body).text = "/*" ++ body ++ "*/" := rfl

@[simp] theorem text_line (body : String) : (enclosed .line body).text = "//" ++ body ++ "\n" := rfl

@[simp] theorem text_quoted (body : String) :
    (enclosed .quoted body).text = "\"" ++ body ++ "\"" := rfl

@[simp] theorem text_template (body : String) :
    (enclosed .template body).text = "\x60" ++ body ++ "\x60" := rfl

end Segment

/-- The segments of pieces that are joined; no pieces at all leave an empty line. -/
def joinedSegments : List (List Segment) → List Segment
  | [] => [.code "\n"]
  | piece :: pieces => (piece :: pieces).flatten

/-- Segments that are lines, each with its line feed. -/
def Spells (segments : List Segment) (ls : List String) : Prop := sourceOf segments = block ls

namespace Spells

variable {xs ys : List Segment} {ls ls' : List String}

theorem code (ls : List String) : Spells [.code (block ls)] ls := by
  simp [Spells, sourceOf]

theorem append (h : Spells xs ls) (h' : Spells ys ls') : Spells (xs ++ ys) (ls ++ ls') := by
  unfold Spells at h h' ⊢
  rw [sourceOf_append, block_append, h, h']

theorem cons {l : String} (h : Spells xs ls) : Spells (.code (l ++ "\n") :: xs) (l :: ls) := by
  unfold Spells at h ⊢
  rw [sourceOf, h]
  rfl

theorem flatMap {α : Type} {f : α → List Segment} {f' : α → List String} {as : List α}
    (h : ∀ a ∈ as, Spells (f a) (f' a)) : Spells (as.flatMap f) (as.flatMap f') := by
  induction as with
  | nil => rfl
  | cons a as ih =>
    exact (h a List.mem_cons_self).append (ih fun b hb => h b (List.mem_cons_of_mem a hb))

theorem joined {α : Type} {f : α → List Segment} {f' : α → List String} {as : List α}
    (h : ∀ a ∈ as, Spells (f a) (f' a)) :
    Spells (joinedSegments (as.map f)) (joined (as.map f')) := by
  have hflat := flatMap h
  cases as with
  | nil => exact code [""]
  | cons a as =>
    rw [List.flatMap_def, List.flatMap_def] at hflat
    exact hflat

end Spells

end Script

theorem Instrumentation.mem_tracedTargets_iff {c : Command} {v : Value} :
    v ∈ tracedTargets c ↔ v = c.target ∨ c.secondTarget.isTruthy = true ∧ v = c.secondTarget := by
  unfold tracedTargets
  cases c.secondTarget.isTruthy <;> simp

namespace Jest

open Generator Script

/-! ### Segments of commands -/

/-- A call on the element of a command, between other code. -/
def accessed (before : String) (c : Command) (after : List Segment) : List Segment :=
  .code (before ++ "( await ") :: .name c.target :: .code "() )" :: after

/-- The text of the comment after an assertion that an element is visible. -/
def assertionComment (c : Command) : String := s!" {c.testId.display}:{c.id}"

/-- The statement of a method of an element. -/
def elementSegments (c : Command) : String → List Segment
  | "type" =>
    let value := (c.params.get? "value").getD .null
    accessed "      await " c [.code s!".type( {value.script} );\n"]
  | "assertVisible" =>
    accessed "      expect( await bs.isVisible( " c
      [.code " ) ).toBe( true ); ", .enclosed .line (assertionComment c)]
  | "assertText" =>
    let value := (c.assertion.bind (·.get? "value")).getD .null
    accessed "      expect( await bs.getText( " c [.code s!" ) ).toContain( {value.script} );\n"]
  | method => accessed "      await " c [.code s!".{method}();\n"]

/-- The statement of a supported command.  Those of the page hold no text but as JSON. -/
def statementSegments (g : Generator) (c : Command) : List Segment :=
  match c.kind with
  | .page => [.code (statement g c ++ "\n")]
  | .element => elementSegments c (c.method.text?.getD "")

/-- The entry of a target in a tracing call. -/
def entrySegments (target : Value) : List Segment :=
  [.enclosed .quoted target.display, .code ": async () => await ", .name target, .code "()"]

/-- The targets of a tracing call. -/
def entriesSegments (c : Command) : List Segment :=
  entrySegments c.target ++
    if c.secondTarget.isTruthy then .code ", " :: entrySegments c.secondTarget else []

def traceSegments (c : Command) : List Segment :=
  .code "      // Tracing... \n" ::
    match c.kind with
    | .page => [.code "      await bs.tracePage( ", .enclosed .quoted c.id, .code " );\n"]
    | .element =>
      [.code "      await bs.traceTarget( ", .enclosed .quoted c.id, .code ", \x7b "] ++
        entriesSegments c ++ [.code " \x7d);\n"]

/-- The text of the selector that a command waits for. -/
def waitSelector (id : String) : String := "body[data-suitegen-next=\"" ++ id ++ "\"]"

def waitSegments (id : String) : List Segment :=
  [.code "    await bs.page.waitForSelector(", .enclosed .template (waitSelector id),
    .code ", \x7b timeout: 900000 \x7d);\n"]

/-- The text of the comment that marks a command. -/
def markerComment (c : Command) : String :=
  s!" COMMAND_ID: {c.groupId.display}:{c.testId.display}:{c.id}"

def markerSegments (c : Command) : List Segment :=
  [.code "      ", .enclosed .line (markerComment c)]

/-- The segments of a supported command. -/
def servedSegments (g : Generator) (c : Command) : List Segment :=
  (if g.runner = .embedded then markerSegments c else []) ++
    (statementSegments g c ++
      ((if g.options.trace then traceSegments c else []) ++
        if g.stopsAfter c then waitSegments c.id else []))

def plainSegments (g : Generator) (c : Command) : List Segment :=
  if g.schema.serves c then servedSegments g c else [.code "\n"]

/-- The text of the comment before or after a snippet. -/
def fenceComment (title : Value) (place : String) : String := s!" SNIPPET {title.display}{place}"

def fenceSegments (title : Value) (place : String) : List Segment :=
  [.code "      ", .enclosed .line (fenceComment title place)]

def snippetSegments (g : Generator) (test : Test) (bindings : Fields) : List Segment :=
  fenceSegments test.title ": START" ++
    (.code (block (assignmentLines bindings)) ::
      (joinedSegments ((test.enabledCommands.filter (!·.isRef)).map (plainSegments g)) ++
        (fenceSegments test.title ": END" ++ [.code "\n"])))

def commandSegments (g : Generator) (c : Command) : List Segment :=
  if c.isRef then
    match g.snippets.getTest? c.ref with
    | .ok (some test) => snippetSegments g test (c.bindings.getD [])
    | _ => [.code "\n"]
  else plainSegments g c

/-! ### Segments of a suite -/

def testSegments (g : Generator) (t : Test) : List Segment :=
  .code (testHead t ++ "\n") ::
    (joinedSegments (t.enabledCommands.map (commandSegments g)) ++
      [.code (block ["    \x7d);", ""])])

def groupSegments (g : Generator) (group : Group) : List Segment :=
  .code (groupHead group ++ "\n") ::
    (joinedSegments ((group.enabledTests.filter Test.hasCommands).map (testSegments g)) ++
      [.code (block ["  \x7d);", ""])])

def bodySegments (g : Generator) : List Segment :=
  joinedSegments ((g.suite.enabledGroups.filter Group.hasCommands).map (groupSegments g))

/-- The text of the comment that the source begins with. -/
def headerComment (g : Generator) : String :=
  "*\n * " ++ g.suite.title.display ++ ("\n" ++ runnerLine g.runner ++ "\n ")

def headerSegments (g : Generator) : List Segment :=
  [.enclosed .block (headerComment g),
    .code ("\n" ++ block ((headerLines g (g.stopIds (g.suite.encountered g.snippets))).drop 4))]

def declarationSegments (t : Target) : List Segment :=
  [.code "const ", .name t.name,
    .code s!" = async () => await bs.query( {t.selector.script}, {t.name.script} );\n"]

/-- The source of a suite, in segments. -/
def segments (g : Generator) : List Segment :=
  headerSegments g ++
    (joinedSegments (g.resolver.declarations.map declarationSegments) ++
      (.code (block (setupLines g)) :: (bodySegments g ++ [.code "\x7d);\n"])))

/-! ### Segments and lines -/

theorem sourceOf_accessed {ctx : RenderContext} {c : Command} (hctx : ctx.target = c.target)
    {e : String} (he : element ctx = .ok e) (before : String) (after : List Segment) :
    sourceOf (accessed before c after) = before ++ (e ++ sourceOf after) := by
  obtain ⟨name, htarget, -, rfl⟩ := element_eq_ok_iff.1 he
  have hname : c.target.display = name := by
    rw [← hctx, htarget]
    rfl
  unfold accessed
  simp only [sourceOf, Segment.text_code, Segment.text_name, hname, toString_text,
    String.append_assoc]

/-- The methods that do nothing but call their like on the element. -/
theorem sourceOf_call {ctx : RenderContext} {c : Command} (hctx : ctx.target = c.target)
    {e : String} (he : element ctx = .ok e) (call : String) :
    sourceOf (accessed "      await " c [.code (call ++ "\n")]) =
      indent ++ "await " ++ e ++ call ++ "\n" := by
  have hindent : ("      await " : String) = indent ++ "await " := rfl
  rw [sourceOf_accessed hctx he]
  simp only [sourceOf, Segment.text_code, hindent, String.append_assoc, String.append_empty]

theorem sourceOf_elementSegments {c : Command} {selector : Value} {method : String}
    {renderer : Renderer} (hr : schema.renderer? .element method = some renderer) {text : String}
    (h : renderer (context c selector method) = .ok text) :
    sourceOf (elementSegments c method) = text ++ "\n" := by
  have hclose : (" );\n" : String) = " );" ++ "\n" := rfl
  have hmem : (method, renderer) ∈ schema.renderers .element := mem_of_lookup hr
  simp only [Schema.renderers, schema, elementRenderers, List.mem_cons, Prod.mk.injEq,
    List.not_mem_nil, or_false] at hmem
  rcases hmem with ⟨rfl, rfl⟩ | ⟨rfl, rfl⟩ | ⟨rfl, rfl⟩ | ⟨rfl, rfl⟩ | ⟨rfl, rfl⟩ | ⟨rfl, rfl⟩
  · obtain ⟨e, he, rfl⟩ := click_eq_ok_iff.1 h
    exact sourceOf_call rfl he ".click();"
  · obtain ⟨e, v, he, hv, rfl⟩ := typeText_eq_ok_iff.1 h
    have hvalue : (c.params.get? "value").getD .null = v := by
      rw [show c.params.get? "value" = some v from hv, Option.getD_some]
    have hcode : ".type( " ++ v.script ++ " );\n" = ".type( " ++ v.script ++ " );" ++ "\n" := by
      simp only [hclose, String.append_assoc]
    simp only [elementSegments, hvalue, toString_text]
    rw [hcode, sourceOf_call rfl he]
    simp only [String.append_assoc]
  · obtain ⟨e, he, rfl⟩ := focus_eq_ok_iff.1 h
    exact sourceOf_call rfl he ".focus();"
  · obtain ⟨e, he, rfl⟩ := hover_eq_ok_iff.1 h
    exact sourceOf_call rfl he ".hover();"
  · obtain ⟨e, he, rfl⟩ := assertVisible_eq_ok_iff.1 h
    have hhead : ("      expect( await bs.isVisible( " : String) =
      indent ++ "expect( await bs.isVisible( " := rfl
    have htail : (" ) ).toBe( true ); // " : String) = " ) ).toBe( true ); " ++ ("//" ++ " ") := rfl
    have hid : (context c selector "assertVisible").commandId.display = c.id := rfl
    simp only [elementSegments, assertionComment, sourceOf_accessed rfl he, sourceOf,
      Segment.text_code, Segment.text_line, toString_text, hhead, htail, hid, String.append_assoc, String.append_empty]
    rfl
  · obtain ⟨v, e, hv, he, rfl⟩ := assertText_eq_ok_iff.1 h
    obtain ⟨fields, hassertion, hvalue⟩ := assertedValue_eq_ok_iff.1 hv
    have hhead : ("      expect( await bs.getText( " : String) =
      indent ++ "expect( await bs.getText( " := rfl
    have hvalue : (c.assertion.bind (·.get? "value")).getD .null = v := by
      rw [show c.assertion = some fields from hassertion, Option.bind_some, hvalue,
        Option.getD_some]
    simp only [elementSegments, hvalue, sourceOf_accessed rfl he, sourceOf, Segment.text_code,
      toString_text, hhead, hclose, String.append_assoc, String.append_empty]

variable {g : Generator} {c : Command}

theorem spells_statementSegments (hschema : g.schema = schema) (hserves : g.schema.serves c = true)
    {text : String} (htext : g.commandText c = .ok text) :
    Spells (statementSegments g c) [statement g c] := by
  have hstatement : statement g c = text := by
    unfold statement
    rw [htext]
  unfold statementSegments
  split
  · simp [Spells, sourceOf, block]
  · rename_i hkind
    obtain ⟨method, renderer, hmethod, hr⟩ := Schema.serves_iff.1 hserves
    rw [commandText_eq hmethod hr] at htext
    obtain ⟨selector, -, hrenderer⟩ := bind_eq_ok_iff.1 htext
    rw [hschema, hkind] at hr
    have hsource := sourceOf_elementSegments hr hrenderer
    simpa [Spells, block, hmethod, hstatement, Value.text?] using hsource

theorem sourceOf_entrySegments (v : Value) :
    sourceOf (entrySegments v) = Instrumentation.traceEntry v := by
  have hmiddle : ("\": async () => await " : String) = "\"" ++ ": async () => await " := rfl
  unfold entrySegments Instrumentation.traceEntry
  simp only [sourceOf, Segment.text_code, Segment.text_name, Segment.text_quoted, toString_text,
    hmiddle, String.append_assoc, String.append_empty]

theorem sourceOf_entriesSegments (c : Command) :
    sourceOf (entriesSegments c) =
      ", ".intercalate ((Instrumentation.tracedTargets c).map Instrumentation.traceEntry) := by
  unfold entriesSegments Instrumentation.tracedTargets
  rw [sourceOf_append, sourceOf_entrySegments]
  cases c.secondTarget.isTruthy with
  | false => simp [sourceOf]
  | true => simp [sourceOf, sourceOf_entrySegments, String.append_assoc]

theorem spells_traceSegments (c : Command) :
    Spells (traceSegments c) ["      // Tracing... ", traceCall c] := by
  unfold traceSegments traceCall
  refine Spells.cons (l := "      // Tracing... ") ?_
  unfold Spells
  cases c.kind with
  | page =>
    have hhead : ("      await bs.tracePage( \"" : String) =
      "      await bs.tracePage( " ++ "\"" := rfl
    have htail : ("\" );" : String) ++ "\n" = "\"" ++ " );\n" := rfl
    simp only [sourceOf, Segment.text_code, Segment.text_quoted, block, toString_text, hhead,
      htail, String.append_assoc, String.append_empty]
  | element =>
    have hhead : ("      await bs.traceTarget( \"" : String) =
      "      await bs.traceTarget( " ++ "\"" := rfl
    have hopen : ("\", \x7b " : String) = "\"" ++ ", \x7b " := rfl
    have hclose : (" \x7d);" : String) ++ "\n" = " \x7d);\n" := rfl
    simp only [sourceOf_append, sourceOf, sourceOf_entriesSegments, Segment.text_code,
      Segment.text_quoted, block, toString_text, hhead, hopen, hclose, String.append_assoc,
      String.append_empty]

theorem spells_waitSegments (id : String) : Spells (waitSegments id) [waitLine id] := by
  have hhead : ("    await bs.page.waitForSelector(\x60body[data-suitegen-next=\"" : String) =
    "    await bs.page.waitForSelector(" ++ ("\x60" ++ "body[data-suitegen-next=\"") := rfl
  have htail : ("\"]\x60, \x7b timeout: 900000 \x7d);" : String) ++ "\n" =
    "\"]" ++ ("\x60" ++ ", \x7b timeout: 900000 \x7d);\n") := rfl
  unfold Spells waitSegments waitLine waitSelector
  simp only [sourceOf, Segment.text_code, Segment.text_template, block, hhead, htail,
    String.append_assoc, String.append_empty]

theorem spells_markerSegments (c : Command) : Spells (markerSegments c) [Marker.line c] := by
  have hlabel : Marker.label = "//" ++ " COMMAND_ID: " := rfl
  unfold Spells markerSegments markerComment Marker.line
  simp only [sourceOf, Segment.text_code, Segment.text_line, block, toString_text, hlabel,
    String.append_assoc, String.append_empty]

theorem spells_fenceSegments (title : Value) (place : String) :
    Spells (fenceSegments title place) [s!"      // SNIPPET {title.display}{place}"] := by
  have hhead : ("      // SNIPPET " : String) = "      " ++ ("//" ++ " SNIPPET ") := rfl
  unfold Spells fenceSegments fenceComment
  simp only [sourceOf, Segment.text_code, Segment.text_line, block, toString_text, hhead,
    String.append_assoc, String.append_empty]

theorem spells_servedSegments (hschema : g.schema = schema) (hserves : g.schema.serves c = true)
    {text : String} (htext : g.commandText c = .ok text) :
    Spells (servedSegments g c) (servedLines g c) := by
  have htrace : Spells (if g.options.trace then traceSegments c else [])
      (if g.options.trace then ["      // Tracing... ", traceCall c] else []) := by
    split
    · exact spells_traceSegments c
    · rfl
  have hwait : Spells (if g.stopsAfter c then waitSegments c.id else [])
      (if g.stopsAfter c then [waitLine c.id] else []) := by
    split
    · exact spells_waitSegments c.id
    · rfl
  have hunmarked := (spells_statementSegments hschema hserves htext).append (htrace.append hwait)
  unfold servedSegments servedLines
  cases g.runner with
  | embedded => exact (spells_markerSegments c).append hunmarked
  | exported => exact hunmarked

theorem spells_plainSegments (hschema : g.schema = schema)
    (htext : g.schema.serves c = true → ∃ text, g.commandText c = .ok text) :
    Spells (plainSegments g c) (plainLines g c) := by
  unfold plainSegments plainLines
  split
  · rename_i hserves
    obtain ⟨text, htext⟩ := htext hserves
    exact spells_servedSegments hschema hserves htext
  · exact .code [""]

theorem spells_snippetSegments (hschema : g.schema = schema) {test : Test}
    (htext : ∀ d ∈ test.enabledCommands.filter (!·.isRef), g.schema.serves d = true →
      ∃ text, g.commandText d = .ok text) (bindings : Fields) :
    Spells (snippetSegments g test bindings) (snippetLines g test bindings) := by
  have hbody := Spells.joined fun d hd => spells_plainSegments hschema (htext d hd)
  have hend := (spells_fenceSegments test.title ": END").append (Spells.code [""])
  have hall := (spells_fenceSegments test.title ": START").append
    ((Spells.code (assignmentLines bindings)).append (hbody.append hend))
  unfold snippetLines
  rw [List.append_assoc]
  exact hall

theorem spells_commandSegments (hschema : g.schema = schema)
    (htext : ∀ d ∈ g.snippets.expand c, g.schema.serves d = true →
      ∃ text, g.commandText d = .ok text) :
    Spells (commandSegments g c) (commandLines g c) := by
  unfold commandSegments commandLines
  cases href : c.isRef with
  | false =>
    rw [SnippetLibrary.expand_of_not_isRef href] at htext
    exact spells_plainSegments hschema (htext c (List.mem_singleton_self c))
  | true =>
    rw [if_pos rfl, if_pos rfl]
    cases hfound : g.snippets.getTest? c.ref with
    | error kind => exact .code [""]
    | ok found =>
      cases found with
      | none => exact .code [""]
      | some test =>
        rw [SnippetLibrary.expand_of_isRef href hfound] at htext
        exact spells_snippetSegments hschema htext _

/-! ### The source of a suite -/

theorem spells_bodySegments
    (h : ∀ c ∈ g.suite.enabledCommands, Spells (commandSegments g c) (commandLines g c)) :
    Spells (bodySegments g) (bodyLines g) := by
  refine Spells.joined fun group hgroup => ?_
  refine Spells.cons ((Spells.joined fun t ht => ?_).append (.code _))
  refine Spells.cons ((Spells.joined fun c hc => h c ?_).append (.code _))
  exact List.mem_flatMap.2 ⟨group, (List.mem_filter.1 hgroup).1,
    List.mem_flatMap.2 ⟨t, (List.mem_filter.1 ht).1, hc⟩⟩

theorem spells_headerSegments (g : Generator) :
    Spells (headerSegments g) (headerLines g (g.stopIds (g.suite.encountered g.snippets))) := by
  have hopen : ("/**" : String) = "/*" ++ "*" := rfl
  have htitle : ("*\n * " : String) = "*" ++ ("\n" ++ " * ") := rfl
  have hend : ("\n " : String) = "\n" ++ " " := rfl
  have hclose : (" */" : String) = " " ++ "*/" := rfl
  unfold Spells headerSegments headerComment headerLines
  simp only [sourceOf, Segment.text_code, Segment.text_block, List.drop_succ_cons, List.drop_zero,
    block, toString_text, hopen, htitle, hend, hclose, String.append_assoc, String.append_empty]

theorem spells_declarationSegments (t : Target) :
    Spells (declarationSegments t) [declarationLine t] := by
  have hclose : (" );\n" : String) = " );" ++ "\n" := rfl
  unfold Spells declarationSegments declarationLine
  simp only [sourceOf, Segment.text_code, Segment.text_name, block, toString_text, hclose,
    String.append_assoc, String.append_empty]

/-- **The source, put together.**  A generated source is made of the segments of its suite,
whatever characters the texts of the suite have. -/
theorem sourceOf_segments (hschema : g.schema = schema) {r : Fragment}
    (h : g.generate.outcome = .ok r) : sourceOf (segments g) = r.text := by
  have hdeclarations := Spells.joined fun t (_ : t ∈ g.resolver.declarations) =>
    spells_declarationSegments t
  have hbody := spells_bodySegments fun c hc => spells_commandSegments hschema
    fun d hd hserves => exists_commandText_of_generate hschema h hc hd hserves
  -- the last line of the listing is empty: it ends without a line feed
  have hend : Spells ([.code "\x7d);\n"] ++ [.code "\n"]) ["\x7d);", ""] := rfl
  have hall := (spells_headerSegments g).append
    (hdeclarations.append ((Spells.code (setupLines g)).append (hbody.append hend)))
  have hsource : sourceOf (segments g) ++ "\n" = block (listing g) := by
    have hlast : "\n" = sourceOf [.code "\n"] := rfl
    rw [hlast, ← sourceOf_append]
    unfold Spells at hall
    rw [listing, ← hall]
    simp only [segments, List.append_assoc, List.cons_append, List.nil_append]
  have hmade := madeOf_generate hschema h
  unfold MadeOf at hmade
  rw [← hmade] at hsource
  exact (String.append_left_inj _).1 hsource

/-- A command of a suite that has a source names its element by an identifier. -/
theorem namesElement_of_generate {g : Generator} (hschema : g.schema = schema) {r : Fragment}
    (h : g.generate.outcome = .ok r) {c : Command} (hc : c ∈ g.reached)
    (hkind : c.kind = .element) : NamesElement c := by
  rw [GeneratorInput.reached, Suite.encountered_eq] at hc
  obtain ⟨hc, hserves⟩ := List.mem_filter.1 hc
  obtain ⟨d, hd, hc⟩ := List.mem_flatMap.1 hc
  have htext := exists_commandText_of_generate hschema h hd hc hserves
  exact ((exists_commandText_iff hschema hserves).1 htext).element hkind

/-! ### Names and enclosed texts -/

/-- A property of segments holds of the names and the enclosed texts of a supported command. -/
structure CommandHolds (P : Segment → Prop) (g : Generator) (c : Command) : Prop where
  marker : g.runner = .embedded → P (.enclosed .line (markerComment c))
  target : c.kind = .element → P (.name c.target)
  assertion : c.kind = .element → c.method = .text "assertVisible" →
    P (.enclosed .line (assertionComment c))
  trace : g.options.trace = true → P (.enclosed .quoted c.id)
  entries : g.options.trace = true → c.kind = .element →
    ∀ v ∈ Instrumentation.tracedTargets c, P (.enclosed .quoted v.display) ∧ P (.name v)
  wait : g.stopsAfter c = true → P (.enclosed .template (waitSelector c.id))

/-- A property of segments holds of the names and the enclosed texts of a suite. -/
structure Holds (P : Segment → Prop) (g : Generator) : Prop where
  header : P (.enclosed .block (headerComment g))
  declarations : ∀ t ∈ g.resolver.declarations, P (.name t.name)
  snippets : ∀ p ∈ g.inlined, P (.enclosed .line (fenceComment p.2.title ": START")) ∧
    P (.enclosed .line (fenceComment p.2.title ": END"))
  commands : ∀ c ∈ g.reached, CommandHolds P g c

section Places

variable {P : Segment → Prop} (hcode : ∀ text, P (.code text))

include hcode

theorem forall_mem_joinedSegments {α : Type} {f : α → List Segment} {as : List α} :
    (∀ s ∈ joinedSegments (as.map f), P s) ↔ ∀ a ∈ as, ∀ s ∈ f a, P s := by
  cases as with
  | nil => simp [joinedSegments, hcode]
  | cons a as =>
    change (∀ s ∈ ((a :: as).map f).flatten, P s) ↔ _
    rw [← List.flatMap_def, List.forall_mem_flatMap]

theorem forall_mem_elementSegments (c : Command) (method : String) :
    (∀ s ∈ elementSegments c method, P s) ↔
      P (.name c.target) ∧ (method = "assertVisible" → P (.enclosed .line (assertionComment c))) := by
  unfold elementSegments
  split <;> simp_all [accessed]

theorem forall_mem_statementSegments (g : Generator) (c : Command) :
    (∀ s ∈ statementSegments g c, P s) ↔
      (c.kind = .element → P (.name c.target)) ∧
        (c.kind = .element → c.method = .text "assertVisible" →
          P (.enclosed .line (assertionComment c))) := by
  have hmethod : c.method.text?.getD "" = "assertVisible" ↔ c.method = .text "assertVisible" := by
    cases c.method <;> simp [Value.text?]
  unfold statementSegments
  cases c.kind with
  | page => simp [hcode]
  | element => simp only [forall_mem_elementSegments hcode, hmethod, true_implies]

theorem forall_mem_entriesSegments (c : Command) :
    (∀ s ∈ entriesSegments c, P s) ↔ ∀ v ∈ Instrumentation.tracedTargets c,
      P (.enclosed .quoted v.display) ∧ P (.name v) := by
  have hentry : ∀ v, (∀ s ∈ entrySegments v, P s) ↔
      P (.enclosed .quoted v.display) ∧ P (.name v) := by
    intro v
    simp [entrySegments, hcode]
  unfold entriesSegments Instrumentation.tracedTargets
  cases c.secondTarget.isTruthy with
  | false => simp [hentry]
  | true =>
    simp only [if_true, List.forall_mem_append, List.forall_mem_cons, List.not_mem_nil,
      false_implies, implies_true, and_true, true_and, hcode, hentry]

theorem forall_mem_traceSegments (c : Command) :
    (∀ s ∈ traceSegments c, P s) ↔
      P (.enclosed .quoted c.id) ∧ (c.kind = .element → ∀ v ∈ Instrumentation.tracedTargets c,
        P (.enclosed .quoted v.display) ∧ P (.name v)) := by
  unfold traceSegments
  cases c.kind with
  | page => simp [hcode]
  | element =>
    simp only [List.forall_mem_append, List.forall_mem_cons, List.not_mem_nil, false_implies,
      implies_true, and_true, true_and, true_implies, hcode, forall_mem_entriesSegments hcode]

theorem forall_mem_servedSegments (g : Generator) (c : Command) :
    (∀ s ∈ servedSegments g c, P s) ↔ CommandHolds P g c := by
  have hmarker : (∀ s ∈ markerSegments c, P s) ↔ P (.enclosed .line (markerComment c)) := by
    simp [markerSegments, hcode]
  have hwait : (∀ s ∈ waitSegments c.id, P s) ↔ P (.enclosed .template (waitSelector c.id)) := by
    simp [waitSegments, hcode]
  have hif : ∀ {p : Prop} [Decidable p] {xs : List Segment},
      (∀ s ∈ if p then xs else [], P s) ↔ (p → ∀ s ∈ xs, P s) := by
    intro p _ xs
    split <;> simp_all
  unfold servedSegments
  simp only [List.forall_mem_append, hif, hmarker, hwait, forall_mem_statementSegments hcode,
    forall_mem_traceSegments hcode]
  constructor
  · rintro ⟨hmarker, ⟨htarget, hassertion⟩, htrace, hwait⟩
    exact ⟨hmarker, htarget, hassertion, fun h => (htrace h).1, fun h => (htrace h).2, hwait⟩
  · intro h
    exact ⟨h.marker, ⟨h.target, h.assertion⟩, fun ht => ⟨h.trace ht, h.entries ht⟩, h.wait⟩

theorem forall_mem_plainSegments (g : Generator) (c : Command) :
    (∀ s ∈ plainSegments g c, P s) ↔ (g.schema.serves c = true → CommandHolds P g c) := by
  unfold plainSegments
  cases g.schema.serves c with
  | false => simp [hcode]
  | true => simp [forall_mem_servedSegments hcode]

theorem forall_mem_snippetSegments (g : Generator) (test : Test) (bindings : Fields) :
    (∀ s ∈ snippetSegments g test bindings, P s) ↔
      (P (.enclosed .line (fenceComment test.title ": START")) ∧
        P (.enclosed .line (fenceComment test.title ": END"))) ∧
      ∀ d ∈ test.enabledCommands.filter (!·.isRef), g.schema.serves d = true →
        CommandHolds P g d := by
  have hfence : ∀ place, (∀ s ∈ fenceSegments test.title place, P s) ↔
      P (.enclosed .line (fenceComment test.title place)) := by
    intro place
    simp [fenceSegments, hcode]
  unfold snippetSegments
  simp only [List.forall_mem_append, List.forall_mem_cons, List.not_mem_nil, false_implies,
    implies_true, and_true, true_and, hcode, hfence, forall_mem_joinedSegments hcode,
    forall_mem_plainSegments hcode]
  constructor
  · rintro ⟨hstart, hbody, hend⟩
    exact ⟨⟨hstart, hend⟩, hbody⟩
  · rintro ⟨⟨hstart, hend⟩, hbody⟩
    exact ⟨hstart, hbody, hend⟩

theorem forall_mem_commandSegments (g : Generator) (c : Command) :
    (∀ s ∈ commandSegments g c, P s) ↔
      (∀ p, g.snippets.inlined? c = some p →
        P (.enclosed .line (fenceComment p.2.title ": START")) ∧
          P (.enclosed .line (fenceComment p.2.title ": END"))) ∧
      ∀ d ∈ g.snippets.expand c, g.schema.serves d = true → CommandHolds P g d := by
  unfold commandSegments SnippetLibrary.inlined? SnippetLibrary.expand
  cases c.isRef with
  | false => simp [forall_mem_plainSegments hcode]
  | true =>
    cases hfound : g.snippets.getTest? c.ref with
    | error kind => simp [hcode]
    | ok found =>
      cases found with
      | none => simp [hcode]
      | some test => simp [forall_mem_snippetSegments hcode]

theorem forall_mem_bodySegments (g : Generator) :
    (∀ s ∈ bodySegments g, P s) ↔
      ∀ c ∈ g.suite.enabledCommands, ∀ s ∈ commandSegments g c, P s := by
  unfold bodySegments groupSegments testSegments
  simp only [forall_mem_joinedSegments hcode, List.forall_mem_append, List.forall_mem_cons,
    List.not_mem_nil, false_implies, implies_true, and_true, true_and, hcode]
  constructor
  · intro h c hc
    obtain ⟨group, hgroup, hc⟩ := List.mem_flatMap.1 hc
    obtain ⟨t, ht, hc⟩ := List.mem_flatMap.1 hc
    have htest : t.hasCommands = true := by
      simpa [Test.hasCommands] using List.ne_nil_of_mem hc
    have hhas : group.hasCommands = true := List.any_eq_true.2 ⟨t, ht, htest⟩
    exact h group (List.mem_filter.2 ⟨hgroup, hhas⟩) t (List.mem_filter.2 ⟨ht, htest⟩) c hc
  · intro h group hgroup t ht c hc
    exact h c (List.mem_flatMap.2 ⟨group, (List.mem_filter.1 hgroup).1,
      List.mem_flatMap.2 ⟨t, (List.mem_filter.1 ht).1, hc⟩⟩)

/-- **A few places.**  A property that code has holds of all segments of a suite if it holds of the
names and the enclosed texts. -/
theorem forall_mem_segments (g : Generator) : (∀ s ∈ segments g, P s) ↔ Holds P g := by
  have hheader : (∀ s ∈ headerSegments g, P s) ↔ P (.enclosed .block (headerComment g)) := by
    simp [headerSegments, hcode]
  have hdeclaration : ∀ t, (∀ s ∈ declarationSegments t, P s) ↔ P (.name t.name) := by
    intro t
    simp [declarationSegments, hcode]
  unfold segments
  simp only [List.forall_mem_append, List.forall_mem_cons, List.not_mem_nil, false_implies,
    implies_true, and_true, true_and, hcode, hheader, hdeclaration,
    forall_mem_joinedSegments hcode, forall_mem_bodySegments hcode,
    forall_mem_commandSegments hcode]
  constructor
  · rintro ⟨hheader, hdeclarations, hcommands⟩
    refine ⟨hheader, hdeclarations, fun p hp => ?_, fun d hd => ?_⟩
    · obtain ⟨c, hc, hinlined⟩ := List.mem_filterMap.1 hp
      exact (hcommands c hc).1 p hinlined
    · rw [GeneratorInput.reached, Suite.encountered_eq] at hd
      obtain ⟨hd, hserves⟩ := List.mem_filter.1 hd
      obtain ⟨c, hc, hd⟩ := List.mem_flatMap.1 hd
      exact (hcommands c hc).2 d hd hserves
  · intro h
    refine ⟨h.header, h.declarations, fun c hc => ⟨fun p hp => ?_, fun d hd hserves => ?_⟩⟩
    · exact h.snippets p (List.mem_filterMap.2 ⟨c, hc, hp⟩)
    · exact h.commands d (GeneratorInput.mem_reached hc hd hserves)

end Places

end Jest

end SuiteCompiler
