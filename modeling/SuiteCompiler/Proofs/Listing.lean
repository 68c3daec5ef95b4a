/-
  SuiteCompiler/Proofs/Listing.lean
  =================================
  The source of a suite, line by line.

  `listing` follows the tree of the suite: header, declarations, groups, tests and
  commands each have their lines, and nothing is known of fragments or of joins.
  `madeOf_generate` says that the generated source is made of them.  If no text that is
  written as it stands has a line feed (`GeneratorInput.IsOneLine`), they are the lines
  that a reader finds (`lines_generate`).  What is to be said about the lines of the
  source can then be said about `listing`, by recursion over the tree.
-/
import SuiteCompiler.Proofs.Statements
import SuiteCompiler.Proofs.Stops

namespace SuiteCompiler

open Outcome Text

/-! ### Texts that are written as they stand -/

/-- The ids of a command and the target of its assertion have no line feed. -/
structure Command.IsOneLine (c : Command) : Prop where
  groupId : OneLine c.groupId.display
  testId : OneLine c.testId.display
  id : OneLine c.id
  secondTarget : OneLine c.secondTarget.display

/-- The titles of the suite and of the snippets have no line feed, and neither have the ids and
the targets of assertions of the reached commands. -/
structure GeneratorInput.IsOneLine (input : GeneratorInput) : Prop where
  title : OneLine input.suite.title.display
  snippets : ∀ entry ∈ input.snippets.tests, OneLine entry.2.title.display
  commands : ∀ c ∈ input.reached, c.IsOneLine

namespace Jest

open Generator

/-! ### Lines of commands -/

/-- The text of a supported command. -/
def statement (g : Generator) (c : Command) : String :=
  match g.commandText c with
  | .ok text => text
  | .error _ => ""

/-- The tracing call after a command. -/
def traceCall (c : Command) : String :=
  match c.kind with
  | .page => s!"      await bs.tracePage( \"{c.id}\" );"
  | .element =>
    let entries := ", ".intercalate ((Instrumentation.tracedTargets c).map Instrumentation.traceEntry)
    s!"      await bs.traceTarget( \"{c.id}\", \x7b {entries} \x7d);"

/-- The wait after a command. -/
def waitLine (id : String) : String :=
  "    await bs.page.waitForSelector(\x60body[data-suitegen-next=\"" ++ id ++
    "\"]\x60, \x7b timeout: 900000 \x7d);"

/-- The lines of a supported command but for its marker. -/
def unmarkedLines (g : Generator) (c : Command) : List String :=
  statement g c ::
    ((if g.options.trace then ["      // Tracing... ", traceCall c] else []) ++
      if g.stopsAfter c then [waitLine c.id] else [])

/-- The lines of a supported command. -/
def servedLines (g : Generator) (c : Command) : List String :=
  match g.runner with
  | .embedded => Marker.line c :: unmarkedLines g c
  | .exported => unmarkedLines g c

/-- The lines of a command that is no reference: an empty one if it is not supported. -/
def plainLines (g : Generator) (c : Command) : List String :=
  if g.schema.serves c then servedLines g c else [""]

/-- The line before a snippet. -/
def startLine (title : Value) : String := s!"      // SNIPPET {title.display}: START"

/-- The line after a snippet. -/
def endLine (title : Value) : String := s!"      // SNIPPET {title.display}: END"

/-- The line that sets the variables of a reference, if it has any. -/
def assignmentLines (bindings : Fields) : List String :=
  if bindings.isEmpty then []
  else [s!"      Object.assign( ENV, {(Value.object bindings).json .compact} );"]

/-- The lines of a snippet in the place of a reference. -/
def snippetLines (g : Generator) (test : Test) (bindings : Fields) : List String :=
  startLine test.title :: (assignmentLines bindings ++
    joined ((test.enabledCommands.filter (!·.isRef)).map (plainLines g)) ++
    [endLine test.title, ""])

/-- The lines of an enabled command: an empty one for a reference that names no snippet. -/
def commandLines (g : Generator) (c : Command) : List String :=
  if c.isRef then
    match g.snippets.getTest? c.ref with
    | .ok (some test) => snippetLines g test (c.bindings.getD [])
    | _ => [""]
  else plainLines g c

/-! ### Lines of a suite -/

/-- The lines of a test. -/
def testLines (g : Generator) (t : Test) : List String :=
  s!"    test( {(Value.text (testTitle t)).script}, async () => \x7b" ::
    (joined (t.enabledCommands.map (commandLines g)) ++ ["    \x7d);", ""])

/-- The lines of a group. -/
def groupLines (g : Generator) (group : Group) : List String :=
  s!"  describe( {group.title.script}, async () => \x7b" ::
    (joined ((group.enabledTests.filter Test.hasCommands).map (testLines g)) ++ ["  \x7d);", ""])

/-- The line that names the runner. -/
def runnerLine (runner : Runner) : String :=
  s!" * Generated by suitegen for the {runner.name} runner."

/-- The lines above the declarations. -/
def headerLines (g : Generator) (ids : List String) : List String :=
  ["/**", s!" * {g.suite.title.display}", runnerLine g.runner, " */",
    "const BrowserSession = require( \"./lib/BrowserSession\" ),",
    s!"      bs = new BrowserSession( {g.outputDirectory.script} );",
    "",
    s!"const ENV = {(Value.object g.env).script},",
    s!"      OPTIONS = {(Value.object g.options.toFields).script},",
    s!"      PROJECT_DIRECTORY = {g.projectDirectory.script},",
    s!"      INTERACTIVE_IDS = {(Value.list (ids.map .text)).script};",
    ""]

/-- The line that declares a target. -/
def declarationLine (t : Target) : String :=
  s!"const {t.name.display} = async () => await bs.query( {t.selector.script}, {t.name.script} );"

/-- The lines between the declarations and the groups. -/
def setupLines (g : Generator) : List String :=
  ["", s!"jest.setTimeout( {testTimeout} );", "",
    s!"describe( {g.suite.title.script}, async () => \x7b",
    "  beforeAll(async () => \x7b", s!"    await bs.setup( {(setup g.options).script} );",
    "  \x7d);", "",
    "  afterAll(async () => \x7b", "    await bs.teardown();", "  \x7d);", ""]

/-- The lines of the groups of a suite. -/
def bodyLines (g : Generator) : List String :=
  joined ((g.suite.enabledGroups.filter Group.hasCommands).map (groupLines g))

/-- The lines of the source of a suite. -/
def listing (g : Generator) : List String :=
  headerLines g (g.stopIds (g.suite.encountered g.snippets)) ++
    (joined (g.resolver.declarations.map fun t => [declarationLine t]) ++
      (setupLines g ++ (bodyLines g ++ ["\x7d);", ""])))

/-! ### Templates as blocks -/

theorem toString_text (s : String) : toString s = s := rfl

theorem test_eq_block (title : Value) (body : String) :
    test title body =
      block [s!"    test( {title.script}, async () => \x7b", body, "    \x7d);"] := by
  have hopen : (", async () => \x7b\n" : String) = ", async () => \x7b" ++ "\n" := rfl
  have hclose : ("\n    \x7d);\n" : String) = "\n" ++ ("    \x7d);" ++ "\n") := rfl
  unfold test
  simp only [block, toString_text, hopen, hclose, String.append_assoc, String.append_empty]

theorem group_eq_block (title : Value) (body : String) :
    group title body =
      block [s!"  describe( {title.script}, async () => \x7b", body, "  \x7d);"] := by
  have hopen : (", async () => \x7b\n" : String) = ", async () => \x7b" ++ "\n" := rfl
  have hclose : ("\n  \x7d);\n" : String) = "\n" ++ ("  \x7d);" ++ "\n") := rfl
  unfold group
  simp only [block, toString_text, hopen, hclose, String.append_assoc, String.append_empty]

theorem fence_eq_block (title : Value) (body : String) (bindings : Fields) :
    Instrumentation.fence title body (assignment bindings) =
      block (startLine title :: (assignmentLines bindings ++ [body, endLine title])) := by
  have hstart : (": START\n" : String) = ": START" ++ "\n" := rfl
  have hend : ("\n      // SNIPPET " : String) = "\n" ++ "      // SNIPPET " := rfl
  have hclose : (": END\n" : String) = ": END" ++ "\n" := rfl
  have hassign : (" );\n" : String) = " );" ++ "\n" := rfl
  unfold Instrumentation.fence assignment assignmentLines startLine endLine
    Instrumentation.assignment
  dsimp only
  cases bindings.isEmpty <;>
    simp only [block, toString_text, hstart, hend, hclose, hassign, List.cons_append,
      List.nil_append, Bool.false_eq_true, if_true, if_false, String.append_assoc,
      String.append_empty]

theorem suite_eq_block (g : Generator) (targets : String) (body : Fragment) :
    suite (g.suiteContext targets body) =
      block (headerLines g body.interactiveIds ++
        targets :: (setupLines g ++ [body.text, "\x7d);"])) := by
  have htitle : ("/**\n * " : String) = "/**" ++ ("\n" ++ " * ") := rfl
  have hrunner : (" runner.\n */\n" : String) = " runner." ++ ("\n" ++ (" */" ++ "\n")) := rfl
  have hrequire : ("const BrowserSession = require( \"./lib/BrowserSession\" ),\n" : String) =
    "const BrowserSession = require( \"./lib/BrowserSession\" )," ++ "\n" := rfl
  have hcall : (" );\n\n" : String) = " );" ++ ("\n" ++ "\n") := rfl
  have hconst : (",\n" : String) = "," ++ "\n" := rfl
  have hids : (";\n\n" : String) = ";" ++ ("\n" ++ "\n") := rfl
  have htimeout : ("\n\njest.setTimeout( " : String) = "\n" ++ ("\n" ++ "jest.setTimeout( ") := rfl
  have hopen : (", async () => \x7b\n" : String) = ", async () => \x7b" ++ "\n" := rfl
  have hbefore : ("  beforeAll(async () => \x7b\n    await bs.setup( " : String) =
    "  beforeAll(async () => \x7b" ++ ("\n" ++ "    await bs.setup( ") := rfl
  have hsetup : (" );\n  \x7d);\n\n" : String) =
    " );" ++ ("\n" ++ ("  \x7d);" ++ ("\n" ++ "\n"))) := rfl
  have hafter : ("  afterAll(async () => \x7b\n    await bs.teardown();\n  \x7d);\n\n" : String) =
    "  afterAll(async () => \x7b" ++ ("\n" ++ ("    await bs.teardown();" ++ ("\n" ++
      ("  \x7d);" ++ ("\n" ++ "\n"))))) := rfl
  have hclose : ("\n\x7d);\n" : String) = "\n" ++ ("\x7d);" ++ "\n") := rfl
  unfold suite suiteContext headerLines setupLines runnerLine
  simp only [List.cons_append, List.nil_append, block, toString_text, htitle, hrunner, hrequire,
    hcall, hconst, hids, htimeout, hopen, hbefore, hsetup, hafter, hclose, String.append_assoc,
    String.append_empty, String.empty_append]

theorem trace_eq (c : Command) :
    Instrumentation.trace c = "\n" ++ ("      // Tracing... " ++ ("\n" ++ traceCall c)) := by
  have hhead : ("\n      // Tracing... \n" : String) =
    "\n" ++ ("      // Tracing... " ++ "\n") := rfl
  have hcall : ∀ call : String, ("\n      // Tracing... \n" : String) ++ call =
      "\n" ++ ("      // Tracing... " ++ ("\n" ++ call)) := by
    intro call
    rw [hhead, String.append_assoc, String.append_assoc]
  exact hcall (traceCall c)

theorem wait_eq (id : String) : Instrumentation.wait id = "\n" ++ waitLine id := by
  have hcall : ("\n    await bs.page.waitForSelector(" : String) =
    "\n" ++ "    await bs.page.waitForSelector(" := rfl
  have hhead : ("    await bs.page.waitForSelector(\x60body[data-suitegen-next=\"" : String) =
    "    await bs.page.waitForSelector(" ++ ("\x60" ++ ("body[" ++
      (Instrumentation.waitAttribute ++ "=\""))) := rfl
  have htail : ("\"]\x60, \x7b timeout: 900000 \x7d);" : String) =
    "\"]" ++ ("\x60" ++ (", " ++ ("\x7b timeout: " ++
      (toString Instrumentation.waitTimeout ++ " \x7d);")))) := rfl
  unfold Instrumentation.wait waitLine
  simp only [toString_text, hcall, hhead, htail, String.append_assoc]

/-! ### Lines of commands, again -/

theorem oneLine_traceCall {c : Command} (hid : OneLine c.id)
    (htarget : c.kind = .element → OneLine c.target.display)
    (hsecond : OneLine c.secondTarget.display) : OneLine (traceCall c) := by
  have hentry : ∀ v : Value, OneLine v.display → OneLine (Instrumentation.traceEntry v) :=
    fun v hv => ((oneLine_ofList.2 (by decide)).fill hv (by decide)).fill hv (by decide)
  unfold traceCall
  split
  · exact (oneLine_ofList.2 (by decide)).fill hid (by decide)
  · rename_i hkind
    have hentries : ∀ s ∈ (Instrumentation.tracedTargets c).map Instrumentation.traceEntry,
        OneLine s := by
      intro s hs
      obtain ⟨v, hv, rfl⟩ := List.mem_map.1 hs
      refine hentry v ?_
      unfold Instrumentation.tracedTargets at hv
      split at hv
      · rcases List.mem_cons.1 hv with rfl | hv
        · exact htarget hkind
        · rw [List.mem_singleton.1 hv]
          exact hsecond
      · rw [List.mem_singleton.1 hv]
        exact htarget hkind
    exact ((oneLine_ofList.2 (by decide)).fill hid (by decide)).fill
      (oneLine_intercalate (oneLine_ofList.2 (by decide)) hentries) (by decide)

theorem oneLine_waitLine {id : String} (h : OneLine id) : OneLine (waitLine id) :=
  (oneLine_ofList.2 (by decide)).fill h (by decide)

theorem oneLine_markerLine {c : Command} (h : c.IsOneLine) : OneLine (Marker.line c) := by
  have hlabel : OneLine (toString "      " ++ toString Marker.label) := by
    exact oneLine_append.2 ⟨oneLine_ofList.2 (by decide), oneLine_ofList.2 (by decide)⟩
  exact oneLine_append.2 ⟨(hlabel.fill h.groupId (by decide)).fill h.testId (by decide), h.id⟩

/-- The source of a command is made of its lines. -/
theorem finish_text_eq {g : Generator} {c : Command} {method chunk : String}
    (hmethod : c.method = .text method) (hchunk : g.commandText c = .ok chunk) :
    (g.finish c chunk).text = "\n".intercalate (servedLines g c) := by
  have hstatement : statement g c = chunk := by
    unfold statement
    rw [hchunk]
  rw [finish_text g hmethod]
  unfold servedLines unmarkedLines
  rw [hstatement, trace_eq, wait_eq]
  cases g.runner <;> cases g.options.trace <;> cases g.stopsAfter c <;>
    simp only [Bool.false_eq_true, if_true, if_false, List.cons_append, List.nil_append,
      String.intercalate_cons_cons, String.intercalate_singleton, String.append_assoc,
      String.append_empty, String.empty_append]

/-- A supported command that has a text has lines without line feeds. -/
theorem oneLine_of_mem_servedLines {g : Generator} (hschema : g.schema = schema) {c : Command}
    (hserves : g.schema.serves c = true) (hline : c.IsOneLine) {chunk : String}
    (hchunk : g.commandText c = .ok chunk) : ∀ l ∈ servedLines g c, OneLine l := by
  have htarget : c.kind = .element → OneLine c.target.display := by
    intro hkind
    obtain ⟨name, htarget, hname⟩ :=
      ((exists_commandText_iff hschema hserves).1 ⟨chunk, hchunk⟩).element hkind
    rw [htarget]
    exact oneLine_of_isIdentifier hname
  have hstatement : OneLine (statement g c) := by
    unfold statement
    rw [hchunk]
    exact (isStatement_commandText hschema hserves hline.testId hline.id hchunk).oneLine
  have hunmarked : ∀ l ∈ unmarkedLines g c, OneLine l := by
    intro l hl
    simp only [unmarkedLines, List.mem_cons, List.mem_append, List.mem_ite_nil_right,
      List.not_mem_nil, or_false] at hl
    rcases hl with rfl | ⟨-, rfl | rfl⟩ | ⟨-, rfl⟩
    · exact hstatement
    · exact oneLine_ofList.2 (by decide)
    · exact oneLine_traceCall hline.id htarget hline.secondTarget
    · exact oneLine_waitLine hline.id
  intro l hl
  unfold servedLines at hl
  split at hl
  · rcases List.mem_cons.1 hl with rfl | hl
    · exact oneLine_markerLine hline
    · exact hunmarked l hl
  · exact hunmarked l hl

/-! ### Texts of the stages -/

section Stages

variable {g : Generator}

theorem madeOf_renderPlain {c : Command} {f : Fragment} (h : (g.renderPlain c).outcome = .ok f) :
    MadeOf f.text (plainLines g c) := by
  unfold plainLines
  cases hserves : g.schema.serves c with
  | false =>
    obtain rfl := eq_empty_of_renderPlain g hserves h
    exact .singleton ""
  | true =>
    rw [outcome_renderPlain_of_serves g hserves, mapError_eq_ok_iff, map_eq_ok_iff] at h
    obtain ⟨chunk, hchunk, rfl⟩ := h
    obtain ⟨method, -, hmethod, -⟩ := Schema.serves_iff.1 hserves
    have hne : servedLines g c ≠ [] := by
      unfold servedLines unmarkedLines
      split <;> simp
    rw [finish_text_eq hmethod hchunk, if_pos rfl]
    exact .intercalate hne

/-- The commands of a snippet that are no references, joined. -/
theorem madeOf_renderSnippet {cs : List Command} {fs : List Fragment}
    (hfs : (cs.mapM fun d => (g.renderPlain d).outcome) = .ok fs) :
    MadeOf ("\n".intercalate (fs.map Fragment.text)) (joined (cs.map (plainLines g))) := by
  apply MadeOf.joined
  rw [List.map_map, List.map_map]
  exact map_of_mapM hfs fun d _ f hf => madeOf_renderPlain hf

theorem madeOf_renderReference {c : Command} (href : c.isRef = true) {f : Fragment}
    (h : (g.renderReference c.ref (c.bindings.getD [])).outcome = .ok f) :
    MadeOf f.text (commandLines g c) := by
  unfold commandLines
  rw [outcome_renderReference] at h
  rw [if_pos href]
  cases hfound : g.snippets.getTest? c.ref with
  | error kind => simp [hfound] at h
  | ok found =>
    cases found with
    | none =>
      obtain rfl : Fragment.empty = f := by simpa [hfound] using h
      exact .singleton ""
    | some test =>
      simp only [hfound] at h
      obtain ⟨fs, hfs, h⟩ := bind_eq_ok_iff.1 h
      obtain rfl := Except.ok.inj h
      have hbody := madeOf_renderSnippet hfs
      unfold MadeOf at hbody ⊢
      rw [fence_eq_block]
      dsimp only [Fragment.join, snippetLines]
      simp only [block, block_append, ← hbody, String.append_assoc, String.append_empty,
        String.empty_append]

theorem madeOf_renderCommand {c : Command} (henabled : c.disabled = false) {f : Fragment}
    (h : (g.renderCommand c).outcome = .ok f) : MadeOf f.text (commandLines g c) := by
  rw [outcome_renderCommand g henabled] at h
  cases href : c.isRef with
  | true => exact madeOf_renderReference href (by simpa [href] using h)
  | false =>
    unfold commandLines
    rw [if_neg (by simp [href])]
    exact madeOf_renderPlain (by simpa [href] using h)

variable (hschema : g.schema = schema)

include hschema

/-- A test with commands is made of its lines, and one without has no source. -/
theorem madeOf_renderTest {t : Test} {f : Fragment} (h : (g.renderTest t).outcome = .ok f) :
    f.isTruthy = t.hasCommands ∧ (t.hasCommands = true → MadeOf f.text (testLines g t)) := by
  rw [outcome_renderTest] at h
  unfold Test.hasCommands
  cases hempty : t.enabledCommands.isEmpty with
  | true =>
    obtain rfl : Fragment.empty = f := by simpa [hempty] using h
    simp [Fragment.isTruthy, Fragment.empty]
  | false =>
    simp only [hempty, Bool.false_eq_true, if_false] at h
    obtain ⟨fs, hfs, h⟩ := bind_eq_ok_iff.1 h
    obtain ⟨text, htext, h⟩ := bind_eq_ok_iff.1 h
    obtain rfl := Except.ok.inj h
    rw [hschema] at htext
    obtain rfl : test (.text (testTitle t)) (Fragment.join fs "\n").text = text :=
      Except.ok.inj (mapError_eq_ok_iff.1 htext)
    have hbody : MadeOf (Fragment.join fs "\n").text
        (joined (t.enabledCommands.map (commandLines g))) := by
      apply MadeOf.joined
      rw [List.map_map, List.map_map]
      exact map_of_mapM hfs fun c hc f hf =>
        madeOf_renderCommand (by simpa using (List.mem_filter.1 hc).2) hf
    rw [test_eq_block]
    exact ⟨by simp [Fragment.isTruthy, block_cons_ne_empty], fun _ => hbody.around _ _⟩

/-- A group with commands is made of its lines, and one without has no source. -/
theorem madeOf_renderGroup {group : Group} {f : Fragment}
    (h : (g.renderGroup group).outcome = .ok f) :
    f.isTruthy = group.hasCommands ∧
      (group.hasCommands = true → MadeOf f.text (groupLines g group)) := by
  rw [outcome_renderGroup] at h
  obtain ⟨fs, hfs, h⟩ := bind_eq_ok_iff.1 h
  have hpieces : (fs.filter Fragment.isTruthy).map (fun f => f.text ++ "\n") =
      (group.enabledTests.filter Test.hasCommands).map fun t => block (testLines g t) :=
    map_filter_of_mapM hfs (fun t _ f hf => (madeOf_renderTest hschema hf).1)
      fun t _ f hf => (madeOf_renderTest hschema hf).2
  -- the group asks for pieces where the document asks for commands
  have hany : group.hasCommands = !(fs.filter Fragment.isTruthy).isEmpty := by
    have hlength := congrArg List.isEmpty hpieces
    simp only [List.isEmpty_map] at hlength
    rw [hlength, Group.hasCommands, Bool.eq_iff_iff]
    simp [List.filter_eq_nil_iff]
  rw [hany]
  cases hempty : (fs.filter Fragment.isTruthy).isEmpty with
  | true =>
    obtain rfl : Fragment.empty = f := by simpa [hempty] using h
    simp [Fragment.isTruthy, Fragment.empty]
  | false =>
    simp only [hempty, Bool.false_eq_true, if_false] at h
    obtain ⟨text, htext, h⟩ := bind_eq_ok_iff.1 h
    obtain rfl := Except.ok.inj h
    rw [hschema] at htext
    obtain rfl : Jest.group group.title (Fragment.join (fs.filter Fragment.isTruthy) "\n").text =
      text := Except.ok.inj (mapError_eq_ok_iff.1 htext)
    have hbody : MadeOf (Fragment.join (fs.filter Fragment.isTruthy) "\n").text
        (joined ((group.enabledTests.filter Test.hasCommands).map (testLines g))) := by
      apply MadeOf.joined
      rw [List.map_map, List.map_map]
      exact hpieces
    rw [group_eq_block]
    exact ⟨by simp [Fragment.isTruthy, block_cons_ne_empty], fun _ => hbody.around _ _⟩

theorem madeOf_renderBody {body : Fragment} (h : g.renderBody = .ok body) :
    MadeOf body.text (bodyLines g) := by
  obtain ⟨fs, hfs, h⟩ := bind_eq_ok_iff.1 h
  obtain rfl := Except.ok.inj h
  apply MadeOf.joined
  rw [List.map_map, List.map_map]
  exact map_filter_of_mapM hfs (fun group _ f hf => (madeOf_renderGroup hschema hf).1)
    fun group _ f hf => (madeOf_renderGroup hschema hf).2

end Stages

/-- A declaration is its line. -/
theorem eq_declarationLine_of_query {t : Target} {text : String} (h : query t = .ok text) :
    text = declarationLine t := by
  unfold query at h
  obtain ⟨name, hname, rfl⟩ := bind_pure_eq_ok_iff.1 h
  obtain ⟨htext, -⟩ := identifier_eq_ok_iff.1 hname
  have hdisplay : t.name.display = name := by
    rw [htext]
    rfl
  unfold declarationLine
  rw [hdisplay]

theorem keepsBodies_composer : composer.KeepsBodies := by
  constructor
  · intro title body text htext _
    rw [← Except.ok.inj htext, test_eq_block]
    exact block_cons_ne_empty _ _
  · intro title body text htext _
    rw [← Except.ok.inj htext, group_eq_block]
    exact block_cons_ne_empty _ _

/-- **The source, line by line.**  A generated source is made of the lines of the suite, whatever
characters its texts have. -/
theorem madeOf_generate {g : Generator} (hschema : g.schema = schema) {r : Fragment}
    (h : g.generate.outcome = .ok r) : MadeOf r.text (listing g) := by
  rw [outcome_generate] at h
  obtain ⟨body, hbody, h⟩ := bind_eq_ok_iff.1 h
  obtain ⟨targets, htargets, h⟩ := bind_eq_ok_iff.1 (mapError_eq_ok_iff.1 h)
  obtain ⟨source, hsource, h⟩ := bind_eq_ok_iff.1 h
  obtain rfl := Except.ok.inj h
  have hids : body.interactiveIds = g.stopIds (g.suite.encountered g.snippets) := by
    have hkeeps : g.schema.composer.KeepsBodies := by
      rw [hschema]
      exact keepsBodies_composer
    exact (accounts_renderBody g hkeeps hbody).ids_eq
  have hmade := madeOf_renderBody hschema hbody
  rw [hschema] at hsource htargets
  obtain rfl : suite (g.suiteContext targets body) = source := Except.ok.inj hsource
  rw [TargetResolver.render_eq] at htargets
  obtain ⟨texts, htexts, htargets⟩ := bind_eq_ok_iff.1 htargets
  obtain rfl := Except.ok.inj htargets
  have hdeclarations : MadeOf ("\n".intercalate texts)
      (joined (g.resolver.declarations.map fun t => [declarationLine t])) := by
    apply MadeOf.joined
    rw [List.map_map]
    refine map_of_mapM htexts fun t _ text htext => ?_
    rw [eq_declarationLine_of_query htext]
    exact MadeOf.singleton _
  unfold MadeOf at hmade hdeclarations ⊢
  rw [suite_eq_block, hids]
  unfold listing
  simp only [block, block_append, ← hmade, ← hdeclarations, String.append_assoc,
    String.append_empty, String.empty_append]

/-! ### Lines without line feeds -/

/-- Every reached command of a suite that has a source has a text. -/
theorem exists_commandText_of_generate {g : Generator} (hschema : g.schema = schema) {r : Fragment}
    (h : g.generate.outcome = .ok r) {c : Command} (hc : c ∈ g.suite.enabledCommands) {d : Command}
    (hd : d ∈ g.snippets.expand c) (hserves : g.schema.serves d = true) :
    ∃ text, g.commandText d = .ok text := by
  obtain ⟨hverdict, -⟩ := (exists_generate_iff hschema).1 ⟨r, h⟩
  rw [verdict_eq_forM] at hverdict
  have hcheck := forM_eq_ok_iff.1 hverdict c hc
  have hplain : g.checkPlain d = .ok () := by
    unfold checkCommand at hcheck
    cases href : c.isRef with
    | false =>
      rw [SnippetLibrary.expand_of_not_isRef href] at hd
      obtain rfl := List.mem_singleton.1 hd
      simpa [href] using hcheck
    | true =>
      cases hfound : g.snippets.getTest? c.ref with
      | error kind => simp [href, hfound] at hcheck
      | ok found =>
        cases found with
        | none => simp [SnippetLibrary.expand, href, hfound] at hd
        | some test =>
          rw [SnippetLibrary.expand_of_isRef href hfound] at hd
          simp only [href, hfound, if_true] at hcheck
          exact forM_eq_ok_iff.1 hcheck d hd
  unfold checkPlain at hplain
  rw [mapError_eq_ok_iff] at hplain
  obtain ⟨supported, hsupported, hplain⟩ := bind_eq_ok_iff.1 hplain
  have htrue : supported = true := by
    unfold Schema.serves at hserves
    rwa [hsupported] at hserves
  rw [htrue, if_pos rfl] at hplain
  exact check_eq_ok_iff.1 hplain

section Lines

variable {g : Generator} (hschema : g.schema = schema)

include hschema

theorem oneLine_of_mem_plainLines {c : Command}
    (hline : g.schema.serves c = true → c.IsOneLine)
    (htext : g.schema.serves c = true → ∃ text, g.commandText c = .ok text) :
    ∀ l ∈ plainLines g c, OneLine l := by
  unfold plainLines
  cases hserves : g.schema.serves c with
  | false => simp [OneLine]
  | true =>
    obtain ⟨chunk, hchunk⟩ := htext hserves
    exact oneLine_of_mem_servedLines hschema hserves (hline hserves) hchunk

theorem oneLine_of_mem_commandLines (hsnippets : ∀ entry ∈ g.snippets.tests, OneLine entry.2.title.display)
    {c : Command} (hline : ∀ d ∈ g.snippets.expand c, g.schema.serves d = true → d.IsOneLine)
    (htext : ∀ d ∈ g.snippets.expand c, g.schema.serves d = true →
      ∃ text, g.commandText d = .ok text) : ∀ l ∈ commandLines g c, OneLine l := by
  unfold commandLines
  cases href : c.isRef with
  | false =>
    rw [SnippetLibrary.expand_of_not_isRef href] at hline htext
    have hmem := List.mem_singleton_self c
    exact oneLine_of_mem_plainLines hschema (hline c hmem) (htext c hmem)
  | true =>
    rw [if_pos rfl]
    split
    · rename_i test hfound
      rw [SnippetLibrary.expand_of_isRef href hfound] at hline htext
      obtain ⟨key, hkey⟩ := SnippetLibrary.mem_tests_of_getTest? hfound
      have htitle : OneLine test.title.display := hsnippets (key, test) hkey
      have hbody := forall_mem_joined (P := OneLine) (by decide) fun d hd =>
        oneLine_of_mem_plainLines hschema (hline d hd) (htext d hd)
      intro l hl
      unfold snippetLines assignmentLines at hl
      simp only [List.mem_cons, List.mem_append, List.not_mem_nil, or_false,
        List.mem_ite_nil_left] at hl
      rcases hl with rfl | (⟨-, rfl⟩ | hl) | rfl | rfl
      · exact (oneLine_ofList.2 (by decide)).fill htitle (by decide)
      · exact (oneLine_ofList.2 (by decide)).fill (Value.oneLine_compact _) (by decide)
      · exact hbody l hl
      · exact (oneLine_ofList.2 (by decide)).fill htitle (by decide)
      · decide
    · simp [OneLine]

/-- The lines of the commands of a snippet that are no references, joined. -/
theorem lines_renderSnippet {cs : List Command}
    (hline : ∀ d ∈ cs, g.schema.serves d = true → d.IsOneLine) {fs : List Fragment}
    (hfs : (cs.mapM fun d => (g.renderPlain d).outcome) = .ok fs) :
    lines ("\n".intercalate (fs.map Fragment.text)) = joined (cs.map (plainLines g)) := by
  refine (madeOf_renderSnippet hfs).lines_eq (forall_mem_joined (by decide) fun d hd => ?_)
  refine oneLine_of_mem_plainLines hschema (hline d hd) fun hserves => ?_
  obtain ⟨f, hf⟩ := exists_mapM_eq_ok_iff.1 ⟨fs, hfs⟩ d hd
  rw [outcome_renderPlain_of_serves g hserves, mapError_eq_ok_iff, map_eq_ok_iff] at hf
  obtain ⟨text, htext, -⟩ := hf
  exact ⟨text, htext⟩

omit hschema in
theorem oneLine_around {head close : String} {ls : List String} (hhead : OneLine head)
    (hclose : OneLine close) (hls : ∀ l ∈ ls, OneLine l) :
    ∀ l ∈ head :: (ls ++ [close, ""]), OneLine l := by
  intro l hl
  simp only [List.mem_cons, List.mem_append, List.not_mem_nil, or_false] at hl
  rcases hl with rfl | hl | rfl | rfl
  · exact hhead
  · exact hls l hl
  · exact hclose
  · decide

omit hschema in
theorem oneLine_of_mem_bodyLines
    (hcommands : ∀ c ∈ g.suite.enabledCommands, ∀ l ∈ commandLines g c, OneLine l) :
    ∀ l ∈ bodyLines g, OneLine l := by
  refine forall_mem_joined (by decide) fun group hgroup => ?_
  refine oneLine_around ((oneLine_ofList.2 (by decide)).fill (Value.oneLine_script _) (by decide))
    (by decide) (forall_mem_joined (by decide) fun t ht => ?_)
  refine oneLine_around ((oneLine_ofList.2 (by decide)).fill (Value.oneLine_script _) (by decide))
    (by decide) (forall_mem_joined (by decide) fun c hc => hcommands c ?_)
  exact List.mem_flatMap.2 ⟨group, (List.mem_filter.1 hgroup).1,
    List.mem_flatMap.2 ⟨t, (List.mem_filter.1 ht).1, hc⟩⟩

end Lines

/-! ### Lines of the source -/

theorem oneLine_of_mem_headerLines {g : Generator} (htitle : OneLine g.suite.title.display)
    (ids : List String) : ∀ l ∈ headerLines g ids, OneLine l := by
  have hrunner : OneLine g.runner.name := by cases g.runner <;> exact oneLine_ofList.2 (by decide)
  have hlit : ∀ {cs : List Char}, '\n' ∉ cs → OneLine (String.ofList cs) := oneLine_ofList.2
  unfold headerLines runnerLine
  simp only [List.forall_mem_cons, List.not_mem_nil, false_implies, implies_true, and_true]
  exact ⟨hlit (by decide), oneLine_append.2 ⟨hlit (by decide), htitle⟩,
    (hlit (by decide)).fill hrunner (by decide), hlit (by decide), hlit (by decide),
    (hlit (by decide)).fill (Value.oneLine_script _) (by decide), hlit (by decide),
    (hlit (by decide)).fill (Value.oneLine_script _) (by decide),
    (hlit (by decide)).fill (Value.oneLine_script _) (by decide),
    (hlit (by decide)).fill (Value.oneLine_script _) (by decide),
    (hlit (by decide)).fill (Value.oneLine_script _) (by decide), hlit (by decide)⟩

theorem oneLine_of_mem_setupLines (g : Generator) : ∀ l ∈ setupLines g, OneLine l := by
  have hlit : ∀ {cs : List Char}, '\n' ∉ cs → OneLine (String.ofList cs) := oneLine_ofList.2
  have htimeout : OneLine (toString testTimeout) := by decide
  unfold setupLines
  simp only [List.forall_mem_cons, List.not_mem_nil, false_implies, implies_true, and_true]
  exact ⟨hlit (by decide), (hlit (by decide)).fill htimeout (by decide), hlit (by decide),
    (hlit (by decide)).fill (Value.oneLine_script _) (by decide), hlit (by decide),
    (hlit (by decide)).fill (Value.oneLine_script _) (by decide), hlit (by decide),
    hlit (by decide), hlit (by decide), hlit (by decide), hlit (by decide), hlit (by decide)⟩

theorem oneLine_declarationLine {t : Target}
    (h : ∃ name, t.name = .text name ∧ isIdentifier name = true) : OneLine (declarationLine t) := by
  obtain ⟨name, htext, hidentifier⟩ := h
  have hname : OneLine t.name.display := by
    rw [htext]
    exact oneLine_of_isIdentifier hidentifier
  exact (((oneLine_ofList.2 (by decide)).fill hname (by decide)).fill (Value.oneLine_script _)
    (by decide)).fill (Value.oneLine_script _) (by decide)

/-- The lines of a generated source are those of the suite, if no text that is written as it stands
has a line feed. -/
theorem lines_generate {g : Generator} (hschema : g.schema = schema) (hline : g.IsOneLine)
    {r : Fragment} (h : g.generate.outcome = .ok r) : lines r.text = listing g := by
  refine (madeOf_generate hschema h).lines_eq fun l hl => ?_
  unfold listing at hl
  simp only [List.mem_append] at hl
  rcases hl with hl | hl | hl | hl | hl
  · exact oneLine_of_mem_headerLines hline.title _ l hl
  · refine forall_mem_joined (P := OneLine) (by decide) (fun t ht l hl => ?_) l hl
    obtain rfl := List.mem_singleton.1 hl
    exact oneLine_declarationLine (((exists_generate_iff hschema).1 ⟨r, h⟩).2 t ht)
  · exact oneLine_of_mem_setupLines g l hl
  · refine oneLine_of_mem_bodyLines (fun c hc => ?_) l hl
    refine oneLine_of_mem_commandLines hschema hline.snippets (fun d hd hserves => ?_)
      fun d hd hserves => exists_commandText_of_generate hschema h hc hd hserves
    exact hline.commands d (GeneratorInput.mem_reached hc hd hserves)
  · rcases List.mem_pair.1 hl with rfl | rfl <;> decide

end Jest

end SuiteCompiler
