/-
  SuiteCompiler/Proofs/Embedding.lean
  ===================================
  The source for the embedded runner against the source for the export.

  The two differ in the line that names the runner and in the markers, and in
  nothing else.  The relation `Marked` says this of two lists of lines and the
  markers in between; it holds of the lines of a command, and every level of the
  suite keeps it.
-/
import SuiteCompiler.Proofs.Listing
import SuiteCompiler.Proofs.MarkerLines

namespace SuiteCompiler

open Outcome Text

/-- The generation for another runner. -/
def Generator.under (g : Generator) (runner : Runner) : Generator := { g with runner }

/-- Markers tell the reached commands apart from the rest of the source: their ids have neither
colons nor white space, and no title or target of an assertion has a line feed. -/
structure GeneratorInput.IsMarkable (input : GeneratorInput) : Prop where
  title : OneLine input.suite.title.display
  snippets : ∀ entry ∈ input.snippets.tests, OneLine entry.2.title.display
  ids : ∀ c ∈ input.reached, c.marker.IsReadable
  secondTargets : ∀ c ∈ input.reached, OneLine c.secondTarget.display

theorem GeneratorInput.IsMarkable.isOneLine {input : GeneratorInput} (h : input.IsMarkable) :
    input.IsOneLine := by
  refine ⟨h.title, h.snippets, fun c hc => ?_⟩
  have hids := h.ids c hc
  exact ⟨hids.groupId.oneLine, hids.testId.oneLine, hids.commandId.oneLine, h.secondTargets c hc⟩

namespace Jest

open Generator

/-! ### Lines with markers -/

/-- Lines are others with markers in between. -/
structure Marked (ls unmarked : List String) (markers : List Marker) : Prop where
  markers_eq : ls.filterMap Marker.parse = markers
  unmarked_eq : (ls.filter fun l => (Marker.parse l).isNone) = unmarked

theorem marked_of_none {ls : List String} (h : ∀ l ∈ ls, Marker.parse l = none) :
    Marked ls ls [] := by
  refine ⟨List.filterMap_eq_nil_iff.2 h, List.filter_eq_self.2 fun l hl => ?_⟩
  rw [h l hl]
  rfl

namespace Marked

variable {ls ls' unmarked unmarked' : List String} {markers markers' : List Marker}

theorem append (h : Marked ls unmarked markers) (h' : Marked ls' unmarked' markers') :
    Marked (ls ++ ls') (unmarked ++ unmarked') (markers ++ markers') := by
  refine ⟨?_, ?_⟩
  · rw [List.filterMap_append, h.markers_eq, h'.markers_eq]
  · rw [List.filter_append, h.unmarked_eq, h'.unmarked_eq]

theorem cons {m : Marker} {l : String} (hl : Marker.parse l = some m)
    (h : Marked ls unmarked markers) : Marked (l :: ls) unmarked (m :: markers) := by
  refine ⟨?_, ?_⟩
  · rw [List.filterMap_cons_some hl, h.markers_eq]
  · rw [List.filter_cons_of_neg (by simp [hl]), h.unmarked_eq]

/-- A line before and lines after that are no markers. -/
theorem around {first : String} {last : List String} (hfirst : Marker.parse first = none)
    (hlast : ∀ l ∈ last, Marker.parse l = none) (h : Marked ls unmarked markers) :
    Marked (first :: (ls ++ last)) (first :: (unmarked ++ last)) markers := by
  have hall := (marked_of_none (List.forall_mem_singleton.2 hfirst)).append
    (h.append (marked_of_none hlast))
  simpa using hall

theorem flatMap {α : Type} {f f' : α → List String} {markers : α → List Marker} {xs : List α}
    (h : ∀ x ∈ xs, Marked (f x) (f' x) (markers x)) :
    Marked (xs.flatMap f) (xs.flatMap f') (xs.flatMap markers) := by
  induction xs with
  | nil => exact ⟨rfl, rfl⟩
  | cons x xs ih =>
    exact (h x List.mem_cons_self).append (ih fun y hy => h y (List.mem_cons_of_mem x hy))

end Marked

/-- Pieces that are joined keep their markers. -/
theorem marked_joined {α : Type} {f f' : α → List String} {markers : α → List Marker}
    {xs : List α} (h : ∀ x ∈ xs, Marked (f x) (f' x) (markers x)) :
    Marked (joined (xs.map f)) (joined (xs.map f')) (xs.flatMap markers) := by
  cases xs with
  | nil => exact marked_of_none (List.forall_mem_singleton.2 Marker.parse_empty)
  | cons x xs =>
    rw [joined_map (List.cons_ne_nil x xs), joined_map (List.cons_ne_nil x xs)]
    exact Marked.flatMap h

/-- The markers of the supported ones among the given commands. -/
def markers (g : Generator) (cs : List Command) : List Marker :=
  (cs.filter g.schema.serves).map Command.marker

theorem markers_flatMap {α : Type} (g : Generator) (xs : List α) (f : α → List Command) :
    markers g (xs.flatMap f) = xs.flatMap fun x => markers g (f x) := by
  simp [markers, List.filter_flatMap, List.map_flatMap]

/-! ### Lines without markers -/

theorem IsStatement.parse_eq_none {text : String} (h : IsStatement text) :
    Marker.parse text = none := by
  rcases h.starts with hstarts | hstarts
  · exact Marker.parse_eq_none_of_starts (by decide) hstarts
  · exact Marker.parse_eq_none_of_starts (by decide) hstarts

/-- A template that starts with something else than a marker gives none, whatever it is given. -/
theorem parse_fill {cs : List Char} (h : Marker.RulesOut cs) (value rest : String) :
    Marker.parse (String.ofList cs ++ value ++ rest) = none :=
  (((Marker.StartsOther.ofList h).append value).append rest).parse

theorem parse_traceCall (c : Command) : Marker.parse (traceCall c) = none := by
  unfold traceCall
  split
  · exact parse_fill (by decide) _ _
  · exact (((((Marker.StartsOther.ofList (by decide)).append _).append _).append _).append _).parse

theorem parse_waitLine (id : String) : Marker.parse (waitLine id) = none :=
  parse_fill (by decide) _ _

theorem parse_of_mem_unmarkedLines {g : Generator} (hschema : g.schema = schema) {c : Command}
    (hserves : g.schema.serves c = true) (hids : c.marker.IsReadable) :
    ∀ l ∈ unmarkedLines g c, Marker.parse l = none := by
  have hstatement : Marker.parse (statement g c) = none := by
    unfold statement
    cases hchunk : g.commandText c with
    | error fault => exact Marker.parse_empty
    | ok chunk =>
      exact (isStatement_commandText hschema hserves hids.testId.oneLine hids.commandId.oneLine
        hchunk).parse_eq_none
  intro l hl
  simp only [unmarkedLines, List.mem_cons, List.mem_append, List.mem_ite_nil_right,
    List.not_mem_nil, or_false] at hl
  rcases hl with rfl | ⟨-, rfl | rfl⟩ | ⟨-, rfl⟩
  · exact hstatement
  · exact (Marker.StartsOther.ofList (by decide)).parse
  · exact parse_traceCall c
  · exact parse_waitLine c.id

/-- A line that closes a block is no marker, and neither is the empty one after it. -/
theorem parse_of_mem_closing {close : String} (h : Marker.StartsOther close) :
    ∀ l ∈ [close, ""], Marker.parse l = none := by
  simp only [List.forall_mem_cons, List.not_mem_nil, false_implies, implies_true, and_true]
  exact ⟨h.parse, Marker.parse_empty⟩

/-! ### Levels of a suite -/

section Levels

variable {g : Generator} (hschema : g.schema = schema)

include hschema

theorem marked_plainLines {c : Command}
    (hids : g.schema.serves c = true → c.marker.IsReadable) :
    Marked (plainLines (g.under .embedded) c) (plainLines (g.under .exported) c)
      (markers g [c]) := by
  have hunder : ∀ runner, (g.under runner).schema = g.schema := fun _ => rfl
  unfold plainLines
  rw [hunder, hunder]
  cases hserves : g.schema.serves c with
  | false =>
    have hmarkers : markers g [c] = [] := by simp [markers, hserves]
    rw [hmarkers]
    exact marked_of_none (List.forall_mem_singleton.2 Marker.parse_empty)
  | true =>
    have hmarkers : markers g [c] = [c.marker] := by simp [markers, hserves]
    rw [hmarkers]
    exact (marked_of_none (parse_of_mem_unmarkedLines hschema hserves (hids hserves))).cons
      (Marker.parse_line (hids hserves))

theorem marked_commandLines {c : Command}
    (hids : ∀ d ∈ g.snippets.expand c, g.schema.serves d = true → d.marker.IsReadable) :
    Marked (commandLines (g.under .embedded) c) (commandLines (g.under .exported) c)
      (markers g (g.snippets.expand c)) := by
  have hunder : ∀ runner, (g.under runner).snippets = g.snippets := fun _ => rfl
  have hempty : Marked [""] [""] [] :=
    marked_of_none (List.forall_mem_singleton.2 Marker.parse_empty)
  unfold commandLines
  rw [hunder, hunder]
  cases href : c.isRef with
  | false =>
    rw [SnippetLibrary.expand_of_not_isRef href] at hids ⊢
    exact marked_plainLines hschema (hids c (List.mem_singleton_self c))
  | true =>
    rw [if_pos rfl, if_pos rfl]
    cases hfound : g.snippets.getTest? c.ref with
    | error kind => simpa [SnippetLibrary.expand, href, hfound, markers] using hempty
    | ok found =>
      cases found with
      | none => simpa [SnippetLibrary.expand, href, hfound, markers] using hempty
      | some test =>
        rw [SnippetLibrary.expand_of_isRef href hfound] at hids ⊢
        have hbody := marked_joined fun d hd => marked_plainLines hschema (hids d hd)
        rw [← markers_flatMap, List.flatMap_singleton'] at hbody
        have hassign : ∀ l ∈ assignmentLines (c.bindings.getD []), Marker.parse l = none := by
          intro l hl
          unfold assignmentLines at hl
          split at hl
          · cases hl
          · rw [List.mem_singleton.1 hl]
            exact parse_fill (by decide) _ _
        have hstart : Marker.parse (startLine test.title) = none := parse_fill (by decide) _ _
        have hend : ∀ l ∈ [endLine test.title, ""], Marker.parse l = none :=
          parse_of_mem_closing (((Marker.StartsOther.ofList (by decide)).append _).append _)
        exact ((marked_of_none hassign).append hbody).around hstart hend

theorem marked_testLines {t : Test}
    (hids : ∀ d ∈ t.encountered g.snippets, g.schema.serves d = true → d.marker.IsReadable) :
    Marked (testLines (g.under .embedded) t) (testLines (g.under .exported) t)
      (markers g (t.encountered g.snippets)) := by
  have hcommands : ∀ c ∈ t.enabledCommands, Marked (commandLines (g.under .embedded) c)
      (commandLines (g.under .exported) c) (markers g (g.snippets.expand c)) :=
    fun c hc => marked_commandLines hschema
      fun d hd => hids d (List.mem_flatMap.2 ⟨c, hc, hd⟩)
  have hbody := marked_joined hcommands
  rw [← markers_flatMap] at hbody
  exact hbody.around (parse_fill (by decide) _ _) (parse_of_mem_closing (.ofList (by decide)))

theorem marked_groupLines {group : Group}
    (hids : ∀ d ∈ group.encountered g.snippets, g.schema.serves d = true → d.marker.IsReadable) :
    Marked (groupLines (g.under .embedded) group) (groupLines (g.under .exported) group)
      (markers g (group.encountered g.snippets)) := by
  have htests : ∀ t ∈ group.enabledTests.filter Test.hasCommands,
      Marked (testLines (g.under .embedded) t) (testLines (g.under .exported) t)
        (markers g (t.encountered g.snippets)) := fun t ht =>
    marked_testLines hschema
      fun d hd => hids d (List.mem_flatMap.2 ⟨t, (List.mem_filter.1 ht).1, hd⟩)
  have hbody := marked_joined htests
  rw [← markers_flatMap, Group.flatMap_encountered] at hbody
  exact hbody.around (parse_fill (by decide) _ _) (parse_of_mem_closing (.ofList (by decide)))

theorem marked_bodyLines (hids : ∀ c ∈ g.reached, c.marker.IsReadable) :
    Marked (bodyLines (g.under .embedded)) (bodyLines (g.under .exported))
      (g.reached.map Command.marker) := by
  have hgroups : ∀ group ∈ g.suite.enabledGroups.filter Group.hasCommands,
      Marked (groupLines (g.under .embedded) group) (groupLines (g.under .exported) group)
        (markers g (group.encountered g.snippets)) := by
    intro group hgroup
    refine marked_groupLines hschema fun d hd hserves => hids d (List.mem_filter.2 ⟨?_, hserves⟩)
    exact List.mem_flatMap.2 ⟨group, (List.mem_filter.1 hgroup).1, hd⟩
  have hbody := marked_joined hgroups
  rw [← markers_flatMap, Suite.flatMap_encountered] at hbody
  exact hbody

end Levels

/-! ### Lines around the groups -/

theorem parse_of_mem_headerLines (g : Generator) (ids : List String) :
    ∀ l ∈ headerLines g ids, Marker.parse l = none := by
  have hlit : ∀ {cs : List Char}, Marker.RulesOut cs → Marker.parse (String.ofList cs) = none :=
    fun h => (Marker.StartsOther.ofList h).parse
  unfold headerLines runnerLine
  simp only [List.forall_mem_cons, List.not_mem_nil, false_implies, implies_true, and_true]
  exact ⟨hlit (by decide), ((Marker.StartsOther.ofList (by decide)).append _).parse,
    parse_fill (by decide) _ _, hlit (by decide), hlit (by decide), parse_fill (by decide) _ _,
    Marker.parse_empty, parse_fill (by decide) _ _, parse_fill (by decide) _ _, parse_fill (by decide) _ _,
    parse_fill (by decide) _ _, Marker.parse_empty⟩

theorem parse_of_mem_setupLines (g : Generator) :
    ∀ l ∈ setupLines g, Marker.parse l = none := by
  have hlit : ∀ {cs : List Char}, Marker.RulesOut cs → Marker.parse (String.ofList cs) = none :=
    fun h => (Marker.StartsOther.ofList h).parse
  unfold setupLines
  simp only [List.forall_mem_cons, List.not_mem_nil, false_implies, implies_true, and_true]
  exact ⟨Marker.parse_empty, parse_fill (by decide) _ _, Marker.parse_empty, parse_fill (by decide) _ _,
    hlit (by decide), parse_fill (by decide) _ _, hlit (by decide), Marker.parse_empty,
    hlit (by decide), hlit (by decide), hlit (by decide), Marker.parse_empty⟩

theorem parse_declarationLine (t : Target) : Marker.parse (declarationLine t) = none :=
  (((((((Marker.StartsOther.ofList (by decide)).append _).append _).append _).append _).append
    _).append _).parse

/-- The whole source with markers is the one without, but for the line that names the runner. -/
theorem marked_listing {g : Generator} (hschema : g.schema = schema)
    (hids : ∀ c ∈ g.reached, c.marker.IsReadable) :
    Marked (listing (g.under .embedded))
      ((listing (g.under .exported)).set 2 (runnerLine .embedded))
      (g.reached.map Command.marker) := by
  have hdeclarations : ∀ l ∈ joined (g.resolver.declarations.map fun t => [declarationLine t]),
      Marker.parse l = none := by
    intro l hl
    cases hts : g.resolver.declarations with
    | nil =>
      rw [hts] at hl
      rw [List.mem_singleton.1 hl]
      exact Marker.parse_empty
    | cons t ts =>
      rw [hts] at hl
      have hmem : l ∈ ((t :: ts).map fun t => [declarationLine t]).flatten := hl
      rw [← List.flatMap_def] at hmem
      obtain ⟨t', -, ht'⟩ := List.mem_flatMap.1 hmem
      rw [List.mem_singleton.1 ht']
      exact parse_declarationLine t'
  have hbody := (marked_bodyLines hschema hids).append
    (marked_of_none (parse_of_mem_closing (.ofList (by decide)) : ∀ l ∈ ["\x7d);", ""], _))
  have hall := (marked_of_none (parse_of_mem_headerLines (g.under .embedded)
    (g.stopIds (g.suite.encountered g.snippets)))).append ((marked_of_none hdeclarations).append
      ((marked_of_none (parse_of_mem_setupLines g)).append hbody))
  -- the headers agree but for the third line, and the declarations and the setup name no runner
  rw [List.append_nil] at hall
  exact hall

/-- **The embedded source is the exported one with markers.**  There is a source for the embedded
runner if and only if there is one for the export.  In the embedded source the markers that are
read from its lines are those of the reached commands, in order and with multiplicity, and the
lines that are no markers are the exported source, but for the runner that its third line
names. -/
theorem embedded_is_marked_export {g : Generator} (hschema : g.schema = schema)
    (hmarkable : g.IsMarkable) :
    ((∃ e, (g.under .embedded).generate.outcome = .ok e) ↔
      ∃ x, (g.under .exported).generate.outcome = .ok x) ∧
    ∀ e x, (g.under .embedded).generate.outcome = .ok e →
      (g.under .exported).generate.outcome = .ok x →
      (lines e.text).filterMap Marker.parse = g.reached.map Command.marker ∧
      (lines x.text)[2]? = some (runnerLine .exported) ∧
      ((lines e.text).filter fun l => (Marker.parse l).isNone) =
        (lines x.text).set 2 (runnerLine .embedded) := by
  have hunder : ∀ runner, (g.under runner).schema = schema := fun _ => hschema
  constructor
  · have hboth : ∀ runner, (∃ r, (g.under runner).generate.outcome = .ok r) ↔
        g.verdict = .ok () ∧ ∀ t ∈ g.resolver.declarations, ∃ name, t.name = .text name ∧
          isIdentifier name = true := fun runner => exists_generate_iff (hunder runner)
    exact (hboth .embedded).trans (hboth .exported).symm
  · intro e x he hx
    have hline : ∀ runner, (g.under runner).IsOneLine := by
      have hline := hmarkable.isOneLine
      exact fun _ => ⟨hline.title, hline.snippets, hline.commands⟩
    rw [lines_generate (hunder _) (hline _) he, lines_generate (hunder _) (hline _) hx]
    have hmarked := marked_listing hschema hmarkable.ids
    exact ⟨hmarked.markers_eq, rfl, hmarked.unmarked_eq⟩

/-- The generation of `shopInput` with its targets bound. -/
def shop : Generator :=
  { shopInput with selectors := [(.text "FIELD", .text "#field")], selectors_eq := rfl }

/-- Both sources exist, and the markers name the command of the test and that of the snippet, but
not the text that looks like one. -/
theorem markers_of_shop :
    ∃ e x, (shop.under .embedded).generate.outcome = .ok e ∧
      (shop.under .exported).generate.outcome = .ok x ∧
      (lines e.text).filterMap Marker.parse =
        [⟨"g", "t", "c1"⟩, ⟨"snippets", "search", "s1"⟩] ∧
      ((lines e.text).filter fun l => (Marker.parse l).isNone) =
        (lines x.text).set 2 (runnerLine .embedded) := by
  have hmarkable : shop.IsMarkable := by
    have hreached := reached_shopInput
    refine ⟨oneLine_ofList.2 (by decide), ?_, ?_, ?_⟩
    · exact List.forall_mem_singleton.2 (oneLine_ofList.2 (by decide))
    · change ∀ c ∈ shopInput.reached, _
      rw [hreached, List.forall_mem_cons, List.forall_mem_singleton]
      exact ⟨⟨by decide, by decide, by decide⟩, ⟨by decide, by decide, by decide⟩⟩
    · change ∀ c ∈ shopInput.reached, _
      rw [hreached, List.forall_mem_cons, List.forall_mem_singleton]
      exact ⟨by decide, by decide⟩
  have hmarked := embedded_is_marked_export (g := shop) rfl hmarkable
  obtain ⟨e, he⟩ : ∃ e, (shop.under .embedded).generate.outcome = .ok e :=
    (exists_generate_iff_wellFormed rfl isNamed_shopInput).2
      ⟨wellFormed_shopInput.declarations, wellFormed_shopInput.commands⟩
  obtain ⟨x, hx⟩ := hmarked.1.1 ⟨e, he⟩
  obtain ⟨hmarkers, -, hlines⟩ := hmarked.2 e x he hx
  exact ⟨e, x, he, hx, hmarkers, hlines⟩

end Jest

end SuiteCompiler
