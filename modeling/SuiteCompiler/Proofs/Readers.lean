/-
  SuiteCompiler/Proofs/Readers.lean
  =================================
  Reading the source of a suite line by line.

  A reader takes something from some lines and nothing from the others.  Which lines
  it skips is told by how they begin (`Skips`); a reader that asks for a beginning of
  its own (`between?`) skips all that begin in another way.  What a reader takes from
  a source is then what it takes from the lines that it does not skip: from the line
  of the interactive ids and the groups (`filterMap_listing`), from the parts of the
  suite that the lines of the groups are written for (`filterMap_bodyLines`), and from
  the waits after commands (`filterMap_commandLines`).

  What is told of the lines of the groups is told part by part: `Additive.bodyLines` is
  the induction over the tree of the suite, and it is made once.
-/
import SuiteCompiler.Proofs.Listing

namespace SuiteCompiler

namespace Text

/-! ### Readers -/

/-- A reader takes nothing from empty lines, nor from lines with one of these beginnings. -/
structure Skips {β : Type} (read : String → Option β) (starts : List String) : Prop where
  empty : read "" = none
  starting : ∀ start ∈ starts, ∀ l, Starts start l → read l = none

namespace Skips

variable {β : Type} {read : String → Option β} {starts starts' : List String}

theorem mono (h : Skips read starts) (hsubset : starts' ⊆ starts) : Skips read starts' :=
  ⟨h.empty, fun start hstart => h.starting start (hsubset hstart)⟩

theorem literal (h : Skips read starts) {cs : List Char}
    (hcs : ∃ start ∈ starts, start.toList <+: cs) : read (String.ofList cs) = none := by
  obtain ⟨start, hstart, hprefix⟩ := hcs
  exact h.starting start hstart _ (by rwa [Starts, String.toList_ofList])

theorem append (h : Skips read starts) {cs : List Char}
    (hcs : ∃ start ∈ starts, start.toList <+: cs) (rest : String) :
    read (String.ofList cs ++ rest) = none := by
  obtain ⟨start, hstart, hprefix⟩ := hcs
  have hline : Starts start (String.ofList cs) := by rwa [Starts, String.toList_ofList]
  exact h.starting start hstart _ (hline.append rest)

theorem fill (h : Skips read starts) {cs : List Char}
    (hcs : ∃ start ∈ starts, start.toList <+: cs) (value rest : String) :
    read (String.ofList cs ++ value ++ rest) = none := by
  rw [String.append_assoc]
  exact h.append hcs (value ++ rest)

end Skips

/-- What a line has between the text that it begins with and the text that it ends with. -/
def between? (before after line : String) : Option String :=
  ((before.toList.isPrefixOf? line.toList).bind after.toList.isSuffixOf?).map String.ofList

theorem between?_eq_some_iff {before after line s : String} :
    between? before after line = some s ↔ line = before ++ s ++ after := by
  unfold between?
  rw [Option.map_eq_some_iff]
  constructor
  · rintro ⟨cs, hcs, rfl⟩
    obtain ⟨rest, hrest, hcs⟩ := Option.bind_eq_some_iff.1 hcs
    rw [List.isPrefixOf?_eq_some_iff_append_eq] at hrest
    rw [List.isSuffixOf?_eq_some_iff_append_eq] at hcs
    rw [← String.toList_inj, String.toList_append, String.toList_append, String.toList_ofList,
      List.append_assoc, hcs, hrest]
  · rintro rfl
    refine ⟨s.toList, Option.bind_eq_some_iff.2 ⟨s.toList ++ after.toList, ?_, ?_⟩,
      String.ofList_toList⟩
    · rw [List.isPrefixOf?_eq_some_iff_append_eq]
      simp
    · rw [List.isSuffixOf?_eq_some_iff_append_eq]

/-- Neither text begins the other. -/
def Apart (a b : String) : Prop := ¬ Starts a b ∧ ¬ Starts b a

instance (a b : String) : Decidable (Apart a b) := inferInstanceAs (Decidable (_ ∧ _))

theorem skips_between? {before : String} (after : String) {starts : List String}
    (hbefore : before ≠ "") (hstarts : ∀ start ∈ starts, Apart before start) :
    Skips (between? before after) starts := by
  have hbegins : ∀ line s, between? before after line = some s → Starts before line := by
    intro line s hs
    have hrefl : Starts before before := List.prefix_refl _
    rw [between?_eq_some_iff.1 hs]
    exact (hrefl.append s).append after
  constructor
  · rw [Option.eq_none_iff_forall_ne_some]
    intro s hs
    refine hbefore (String.toList_inj.1 ?_)
    exact List.prefix_nil.1 (hbegins "" s hs)
  · intro start hstart line hline
    rw [Option.eq_none_iff_forall_ne_some]
    intro s hs
    rcases List.prefix_or_prefix_of_prefix (hbegins line s hs) hline with hprefix | hprefix
    · exact (hstarts start hstart).1 hprefix
    · exact (hstarts start hstart).2 hprefix

section Lines

variable {β : Type} {read : String → Option β}

theorem filterMap_cons_eq_append (l : String) (ls : List String) :
    (l :: ls).filterMap read = (read l).toList ++ ls.filterMap read := by
  cases h : read l <;> simp [h]

theorem filterMap_joined {α : Type} (hempty : read "" = none) (f : α → List String)
    (xs : List α) :
    (joined (xs.map f)).filterMap read = xs.flatMap fun x => (f x).filterMap read := by
  cases xs with
  | nil => simp [joined, hempty]
  | cons x xs => rw [joined_map (List.cons_ne_nil x xs), List.filterMap_flatMap]

/-- Lines with a line before them, and with a line and an empty one after them. -/
theorem filterMap_around (hempty : read "" = none) (head close : String) (ls : List String) :
    (head :: (ls ++ [close, ""])).filterMap read =
      (read head).toList ++ (ls.filterMap read ++ (read close).toList) := by
  have hlast : [""].filterMap read = [] := by simp [hempty]
  rw [filterMap_cons_eq_append, List.filterMap_append, filterMap_cons_eq_append, hlast,
    List.append_nil]

end Lines

end Text

open Outcome Text

/-! ### Parts of a suite -/

/-- What lines are written for between the header and the end of a source: the opening of a group
or of a test, or an enabled command. -/
inductive Part where
  | group (group : Group)
  | test (test : Test)
  | command (command : Command)

def Part.command? : Part → Option Command
  | .command c => some c
  | _ => none

def Test.parts (t : Test) : List Part := .test t :: t.enabledCommands.map .command

/-- The parts of a group; a test without commands has none. -/
def Group.parts (group : Group) : List Part :=
  .group group :: (group.enabledTests.filter Test.hasCommands).flatMap Test.parts

/-- The parts of a suite; a group without commands has none. -/
def Suite.parts (suite : Suite) : List Part :=
  (suite.enabledGroups.filter Group.hasCommands).flatMap Group.parts

theorem Test.filterMap_command?_parts (t : Test) :
    t.parts.filterMap Part.command? = t.enabledCommands := by
  rw [parts, List.filterMap_cons_none rfl, List.filterMap_map]
  exact List.filterMap_some

theorem Group.filterMap_command?_parts (group : Group) :
    group.parts.filterMap Part.command? = group.enabledTests.flatMap Test.enabledCommands := by
  rw [parts, List.filterMap_cons_none rfl, List.filterMap_flatMap]
  simp only [Test.filterMap_command?_parts]
  exact flatMap_filter_of_nil fun t _ hnone => by simpa [Test.hasCommands] using hnone

theorem Suite.filterMap_command?_parts (suite : Suite) :
    suite.parts.filterMap Part.command? = suite.enabledCommands := by
  rw [parts, List.filterMap_flatMap]
  simp only [Group.filterMap_command?_parts]
  refine flatMap_filter_of_nil fun group _ hnone => List.flatMap_eq_nil_iff.2 fun t ht => ?_
  rw [Group.hasCommands, List.any_eq_false] at hnone
  simpa [Test.hasCommands] using hnone t ht

theorem Suite.flatMap_command?_parts {β : Type} (suite : Suite) (f : Command → List β) :
    (suite.parts.flatMap fun part => part.command?.toList.flatMap f) =
      suite.enabledCommands.flatMap f := by
  rw [← Suite.filterMap_command?_parts, ← List.flatMap_assoc, List.filterMap_eq_flatMap_toList]

theorem Suite.mem_enabledCommands_of_mem_parts {suite : Suite} {c : Command}
    (h : .command c ∈ suite.parts) : c ∈ suite.enabledCommands := by
  rw [← Suite.filterMap_command?_parts]
  exact List.mem_filterMap.2 ⟨.command c, h, rfl⟩

namespace Jest

open Generator

/-! ### Lines of parts -/

def groupHead (group : Group) : String := s!"  describe( {group.title.script}, async () => \x7b"

def testHead (t : Test) : String :=
  s!"    test( {(Value.text (testTitle t)).script}, async () => \x7b"

def partLines (g : Generator) : Part → List String
  | .group group => [groupHead group]
  | .test t => [testHead t]
  | .command c => commandLines g c

/-- What can be told of lines and of the parts that they are written for, piece by piece: it holds
of pieces together if it holds of each, and the lines that close a block add nothing. -/
structure Additive (P : List String → List Part → Prop) : Prop where
  nil : P [] []
  append : ∀ {ls ls' ps ps'}, P ls ps → P ls' ps' → P (ls ++ ls') (ps ++ ps')
  closing : ∀ l ∈ ["", "    \x7d);", "  \x7d);"], P [l] []

namespace Additive

variable {P : List String → List Part → Prop}

theorem flatMap (h : Additive P) {α : Type} {f : α → List String} {parts : α → List Part}
    {xs : List α} (hxs : ∀ x ∈ xs, P (f x) (parts x)) : P (xs.flatMap f) (xs.flatMap parts) := by
  induction xs with
  | nil => exact h.nil
  | cons x xs ih =>
    exact h.append (hxs x List.mem_cons_self) (ih fun y hy => hxs y (List.mem_cons_of_mem x hy))

theorem joined (h : Additive P) {α : Type} {f : α → List String} {parts : α → List Part}
    {xs : List α} (hxs : ∀ x ∈ xs, P (f x) (parts x)) :
    P (Text.joined (xs.map f)) (xs.flatMap parts) := by
  cases xs with
  | nil => exact h.closing "" (by simp)
  | cons x xs =>
    rw [joined_map (List.cons_ne_nil x xs)]
    exact h.flatMap hxs

/-- Lines with the line of a part before them, and with a closing and an empty one after them. -/
theorem around (h : Additive P) {head close : String} {part : Part} {ls : List String}
    {parts : List Part} (hhead : P [head] [part]) (hclose : P [close] []) (hls : P ls parts) :
    P (head :: (ls ++ [close, ""])) (part :: parts) := by
  have hend := h.append hclose (h.closing "" (by simp))
  simpa using h.append hhead (h.append hls hend)

/-- **Induction over the lines of the groups.**  What can be told of every part can be told of all
of them together. -/
theorem bodyLines (h : Additive P) {g : Generator}
    (hparts : ∀ part ∈ g.suite.parts, P (partLines g part) [part]) :
    P (bodyLines g) g.suite.parts := by
  -- a head and a closing line stand around the tests of a group, and around the commands of a test
  refine h.joined fun group hgroup => ?_
  have hgroupParts : ∀ part ∈ group.parts, P (partLines g part) [part] :=
    fun part hpart => hparts part (List.mem_flatMap.2 ⟨group, hgroup, hpart⟩)
  refine h.around (hgroupParts (.group group) List.mem_cons_self) (h.closing _ (by simp))
    (h.joined fun t ht => ?_)
  have htestParts : ∀ part ∈ t.parts, P (partLines g part) [part] :=
    fun part hpart => hgroupParts part
      (List.mem_cons_of_mem _ (List.mem_flatMap.2 ⟨t, ht, hpart⟩))
  refine h.around (htestParts (.test t) List.mem_cons_self) (h.closing _ (by simp)) ?_
  have hcommands := h.joined fun c hc =>
    htestParts (.command c) (List.mem_cons_of_mem _ (List.mem_map_of_mem hc))
  rwa [← List.map_eq_flatMap] at hcommands

end Additive

section Readers

variable {β : Type} {read : String → Option β}

/-! ### Lines around the groups -/

def idsLine (ids : List String) : String :=
  s!"      INTERACTIVE_IDS = {(Value.list (ids.map .text)).script};"

/-- How the lines around the groups begin, but for the line of the interactive ids. -/
def frameStarts : List String :=
  ["/**", " * ", " */", "const ", "      bs = ", "      OPTIONS = ", "      PROJECT_DIRECTORY = ",
    "jest.", "describe( ", "  beforeAll(", "    await bs.setup(", "  \x7d);", "  afterAll(",
    "    await bs.teardown(", "\x7d);"]

/-- How the lines below the declarations begin that are not those of groups. -/
def setupStarts : List String :=
  ["jest.", "describe( ", "  beforeAll(", "    await bs.setup(", "  \x7d);", "  afterAll(",
    "    await bs.teardown(", "\x7d);"]

theorem setupStarts_subset : setupStarts ⊆ frameStarts := by decide

theorem filterMap_headerLines (h : Skips read frameStarts) (g : Generator) (ids : List String) :
    (headerLines g ids).filterMap read = (read (idsLine ids)).toList := by
  have hfirst : ((headerLines g ids).take 10).filterMap read = [] := by
    rw [List.filterMap_eq_nil_iff]
    unfold headerLines runnerLine
    simp only [List.take_succ_cons, List.take_zero, List.forall_mem_cons, List.not_mem_nil,
      false_implies, implies_true, and_true]
    exact ⟨h.literal (by decide), h.append (by decide) _, h.fill (by decide) _ _,
      h.literal (by decide), h.literal (by decide), h.fill (by decide) _ _, h.empty,
      h.fill (by decide) _ _, h.fill (by decide) _ _, h.fill (by decide) _ _⟩
  have hlast : (headerLines g ids).drop 10 = [idsLine ids, ""] := rfl
  rw [← List.take_append_drop 10 (headerLines g ids), List.filterMap_append, hfirst, hlast,
    List.nil_append, filterMap_cons_eq_append]
  simp [h.empty]

theorem filterMap_setupLines (h : Skips read setupStarts) (g : Generator) :
    (setupLines g).filterMap read = [] := by
  rw [List.filterMap_eq_nil_iff]
  unfold setupLines
  simp only [List.forall_mem_cons, List.not_mem_nil, false_implies, implies_true, and_true]
  exact ⟨h.empty, h.fill (by decide) _ _, h.empty, h.fill (by decide) _ _, h.literal (by decide),
    h.fill (by decide) _ _, h.literal (by decide), h.empty, h.literal (by decide),
    h.literal (by decide), h.literal (by decide), h.empty⟩

theorem read_declarationLine (h : Skips read frameStarts) (t : Target) :
    read (declarationLine t) = none := by
  have hhead : Starts "const " (toString "const ") := List.prefix_refl _
  exact h.starting "const " (by simp [frameStarts]) _
    ((((((hhead.append _).append _).append _).append _).append _).append _)

theorem filterMap_declarationLines (h : Skips read frameStarts) (ts : List Target) :
    (joined (ts.map fun t => [declarationLine t])).filterMap read = [] := by
  rw [filterMap_joined h.empty]
  simp [read_declarationLine h]

theorem filterMap_endLines (h : Skips read setupStarts) : ["\x7d);", ""].filterMap read = [] := by
  have hclose : read "\x7d);" = none := h.literal (by decide)
  simp [h.empty, hclose]

/-- What a reader takes from a source that skips the lines around the groups. -/
theorem filterMap_listing (h : Skips read frameStarts) (g : Generator) :
    (listing g).filterMap read =
      (read (idsLine (g.stopIds (g.suite.encountered g.snippets)))).toList ++
        (bodyLines g).filterMap read := by
  have hsetup := h.mono setupStarts_subset
  simp only [listing, List.filterMap_append, filterMap_headerLines h, filterMap_declarationLines h,
    filterMap_setupLines hsetup, filterMap_endLines hsetup, List.nil_append, List.append_nil]

/-! ### Lines of commands -/

/-- The waits after the given commands. -/
def waitLines (g : Generator) (cs : List Command) : List String := (g.stopIds cs).map waitLine

theorem waitLines_flatMap {α : Type} (g : Generator) (xs : List α) (f : α → List Command) :
    waitLines g (xs.flatMap f) = xs.flatMap fun x => waitLines g (f x) := by
  rw [waitLines, stopIds_flatMap, List.map_flatMap]
  rfl

/-- What a reader takes from pieces is what it takes from their waits, if it is so for each. -/
theorem flatMap_eq_waitLines {α : Type} {g : Generator} {xs : List α} {ls : α → List String}
    {f : α → List Command}
    (h : ∀ x ∈ xs, (ls x).filterMap read = (waitLines g (f x)).filterMap read) :
    (xs.flatMap fun x => (ls x).filterMap read) =
      (waitLines g (xs.flatMap f)).filterMap read := by
  rw [waitLines_flatMap, List.filterMap_flatMap, List.flatMap_def, List.flatMap_def]
  exact congrArg List.flatten (List.map_congr_left h)

theorem filterMap_waitLines (h : Skips read ["    await "]) (g : Generator) (cs : List Command) :
    (waitLines g cs).filterMap read = [] := by
  rw [List.filterMap_eq_nil_iff]
  intro l hl
  obtain ⟨id, -, rfl⟩ := List.mem_map.1 hl
  exact h.fill (by decide) _ _

/-- How the lines of a command begin, but for waits. -/
def statementStarts : List String :=
  ["      await ", "      expect( ", "      // Tracing... ", "      // COMMAND_ID: "]

/-- How the lines of a snippet begin, but for waits. -/
def snippetStarts : List String :=
  statementStarts ++ ["      // SNIPPET ", "      Object.assign( ENV, "]

theorem read_statement (h : Skips read statementStarts) {text : String}
    (htext : IsStatement text) : read text = none := by
  rcases htext.starts with hstarts | hstarts
  · exact h.starting _ (by simp [statementStarts]) _ hstarts
  · exact h.starting _ (by simp [statementStarts]) _ hstarts

theorem read_traceCall (h : Skips read statementStarts) (c : Command) :
    read (traceCall c) = none := by
  unfold traceCall
  split
  · exact h.fill (by decide) _ _
  · rw [String.append_assoc, String.append_assoc]
    exact h.fill (by decide) _ _

theorem read_markerLine (h : Skips read statementStarts) (c : Command) :
    read (Marker.line c) = none := by
  have hlabel : Starts "      // COMMAND_ID: " (toString "      " ++ toString Marker.label) :=
    List.prefix_refl _
  exact h.starting "      // COMMAND_ID: " (by simp [statementStarts]) _
    (((((hlabel.append _).append _).append _).append _).append _)

theorem filterMap_unmarkedLines (h : Skips read statementStarts) {g : Generator}
    (hschema : g.schema = schema) {c : Command} (hserves : g.schema.serves c = true)
    (hline : c.IsOneLine) :
    (unmarkedLines g c).filterMap read = (waitLines g [c]).filterMap read := by
  have hstatement : read (statement g c) = none := by
    unfold statement
    cases hchunk : g.commandText c with
    | error fault => exact h.empty
    | ok chunk =>
      exact read_statement h (isStatement_commandText hschema hserves hline.testId hline.id hchunk)
  have hcomment : read "      // Tracing... " = none := h.literal (by decide)
  have htrace : (if g.options.trace then ["      // Tracing... ", traceCall c] else []).filterMap
      read = [] := by
    split <;> simp [hcomment, read_traceCall h]
  have hwaits : (if g.stopsAfter c then [waitLine c.id] else []) = waitLines g [c] := by
    cases hstops : g.stopsAfter c <;> simp [waitLines, stopIds, hserves, hstops]
  rw [unmarkedLines, List.filterMap_cons_none hstatement, List.filterMap_append, htrace,
    List.nil_append, hwaits]

/-- What a reader takes from a command that skips its statement is what it takes from its wait. -/
theorem filterMap_plainLines (h : Skips read statementStarts) {g : Generator}
    (hschema : g.schema = schema) {c : Command}
    (hline : g.schema.serves c = true → c.IsOneLine) :
    (plainLines g c).filterMap read = (waitLines g [c]).filterMap read := by
  unfold plainLines
  cases hserves : g.schema.serves c with
  | false => simp [waitLines, stopIds, hserves, h.empty]
  | true =>
    have hunmarked := filterMap_unmarkedLines h hschema hserves (hline hserves)
    rw [if_pos rfl, servedLines]
    cases g.runner with
    | embedded => rw [List.filterMap_cons_none (read_markerLine h c), hunmarked]
    | exported => exact hunmarked

theorem filterMap_snippetLines (hempty : read "" = none) (g : Generator) (test : Test)
    (bindings : Fields) :
    (snippetLines g test bindings).filterMap read =
      (read (startLine test.title)).toList ++ ((assignmentLines bindings).filterMap read ++
        ((test.enabledCommands.filter (!·.isRef)).flatMap fun c =>
          (plainLines g c).filterMap read) ++ (read (endLine test.title)).toList) := by
  rw [snippetLines, filterMap_around hempty, List.filterMap_append, filterMap_joined hempty]

/-- What a reader takes from a reference that skips all statements is what it takes from the waits
in its snippet. -/
theorem filterMap_commandLines (h : Skips read snippetStarts) {g : Generator}
    (hschema : g.schema = schema) {c : Command}
    (hline : ∀ d ∈ g.snippets.expand c, g.schema.serves d = true → d.IsOneLine) :
    (commandLines g c).filterMap read = (waitLines g (g.snippets.expand c)).filterMap read := by
  have hstatements : Skips read statementStarts := h.mono (List.subset_append_left _ _)
  unfold commandLines
  cases href : c.isRef with
  | false =>
    rw [SnippetLibrary.expand_of_not_isRef href] at hline ⊢
    exact filterMap_plainLines hstatements hschema (hline c (List.mem_singleton_self c))
  | true =>
    rw [if_pos rfl]
    cases hfound : g.snippets.getTest? c.ref with
    | error kind => simp [SnippetLibrary.expand, href, hfound, waitLines, stopIds, h.empty]
    | ok found =>
      cases found with
      | none => simp [SnippetLibrary.expand, href, hfound, waitLines, stopIds, h.empty]
      | some test =>
        rw [SnippetLibrary.expand_of_isRef href hfound] at hline ⊢
        have hstart : read (startLine test.title) = none := h.fill (by decide) _ _
        have hend : read (endLine test.title) = none := h.fill (by decide) _ _
        have hassign : (assignmentLines (c.bindings.getD [])).filterMap read = [] := by
          unfold assignmentLines
          split
          · rfl
          · exact List.filterMap_cons_none (h.fill (by decide) _ _)
        have hbody := flatMap_eq_waitLines fun d hd =>
          filterMap_plainLines hstatements hschema (hline d hd)
        rw [filterMap_snippetLines h.empty, hstart, hend, hassign, hbody, List.flatMap_singleton']
        simp

/-! ### Lines of groups -/

/-- How the lines begin that close a test or a group. -/
def closeStarts : List String := ["    \x7d);", "  \x7d);"]

/-- What a reader takes from the groups is what it takes from their parts. -/
theorem filterMap_bodyLines (h : Skips read closeStarts) {g : Generator} {out : Part → List β}
    (hparts : ∀ part ∈ g.suite.parts, (partLines g part).filterMap read = out part) :
    (bodyLines g).filterMap read = g.suite.parts.flatMap out := by
  have hadditive : Additive fun ls parts => ls.filterMap read = parts.flatMap out := by
    refine ⟨rfl, fun hls hls' => ?_, ?_⟩
    · rw [List.filterMap_append, List.flatMap_append, hls, hls']
    · simp only [List.forall_mem_cons, List.not_mem_nil, false_implies, implies_true, and_true]
      exact ⟨List.filterMap_cons_none h.empty, List.filterMap_cons_none (h.literal (by decide)),
        List.filterMap_cons_none (h.literal (by decide))⟩
  refine hadditive.bodyLines fun part hpart => ?_
  rw [hparts part hpart, List.flatMap_singleton]

/-- How the lines of the groups begin, but for waits. -/
def bodyStarts : List String :=
  snippetStarts ++ closeStarts ++ ["  describe( ", "    test( "]

/-- What a reader takes from the groups that skips all but waits. -/
theorem filterMap_bodyLines_of_skips (h : Skips read bodyStarts) {g : Generator}
    (hschema : g.schema = schema) (hline : g.IsOneLine) :
    (bodyLines g).filterMap read =
      (waitLines g (g.suite.encountered g.snippets)).filterMap read := by
  have hsnippets : Skips read snippetStarts := h.mono (by decide)
  rw [Suite.encountered_eq, ← flatMap_eq_waitLines fun _ _ => rfl, ← Suite.flatMap_command?_parts]
  refine filterMap_bodyLines (h.mono (by decide)) fun part hpart => ?_
  cases part with
  | group group => exact List.filterMap_cons_none (h.fill (by decide) _ _)
  | test t => exact List.filterMap_cons_none (h.fill (by decide) _ _)
  | command c =>
    have hc := Suite.mem_enabledCommands_of_mem_parts hpart
    rw [Part.command?, Option.toList_some, List.flatMap_singleton]
    exact filterMap_commandLines hsnippets hschema fun d hd hserves =>
      hline.commands d (GeneratorInput.mem_reached hc hd hserves)

end Readers

end Jest

end SuiteCompiler
