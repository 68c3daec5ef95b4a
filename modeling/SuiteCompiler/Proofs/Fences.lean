/-
  SuiteCompiler/Proofs/Fences.lean
  ================================
  Snippets between their first and their last line.

  The source of a snippet stands between two lines that name it, its fences.  A reader
  that knows nothing but how a fence begins takes the first fence for one that opens
  and the next for the one that closes it (`readFenced`).  `snippets_are_fenced` says
  that this is right for every source: the fences are those of the references that
  resolve, in order, and between two of one snippet stand its variables and its
  commands, which add no fences of their own.  So fences alternate, and a library in
  which snippets refer to each other or to themselves has no fence inside another.
-/
import Mathlib.Data.List.Forall2
import SuiteCompiler.Proofs.Readers

namespace SuiteCompiler

open Outcome Text

/-! ### References -/

/-- A command together with the snippet that it stands for, if it is a reference that resolves. -/
def SnippetLibrary.inlined? (library : SnippetLibrary) (c : Command) : Option (Command × Test) :=
  if c.isRef then
    match library.getTest? c.ref with
    | .ok (some test) => some (c, test)
    | _ => none
  else none

/-- The enabled references that resolve, in order, each with its snippet. -/
def GeneratorInput.inlined (input : GeneratorInput) : List (Command × Test) :=
  input.suite.enabledCommands.filterMap input.snippets.inlined?

theorem SnippetLibrary.inlined?_eq_some_iff {library : SnippetLibrary} {c : Command}
    {p : Command × Test} :
    library.inlined? c = some p ↔
      c.isRef = true ∧ library.getTest? c.ref = .ok (some p.2) ∧ p.1 = c := by
  obtain ⟨c', test⟩ := p
  unfold inlined?
  cases c.isRef with
  | false => simp
  | true =>
    rw [if_pos rfl]
    split
    · rename_i found hfound
      rw [hfound]
      simp [eq_comm, and_comm]
    · rename_i hnone
      simp only [reduceCtorEq, true_and, false_iff, not_and]
      exact fun hfound => absurd hfound (hnone test)

namespace Jest

open Generator

/-! ### Reading fences -/

/-- Whether a line begins or ends a snippet. -/
def isFence (line : String) : Bool := Starts "      // SNIPPET " line

/-- A fence, the lines after it, and the fence that closes it. -/
structure FencedLines where
  first : String
  inside : List String
  last : String
  deriving DecidableEq, Repr

/-- What stands between fences.  A fence opens a block if none is open and closes it if one is;
`opened` is the fence that opened it with the lines since. -/
def readFenced (opened : Option (String × List String)) : List String → List FencedLines
  | [] => []
  | l :: ls =>
    match opened with
    | none => if isFence l then readFenced (some (l, [])) ls else readFenced none ls
    | some (first, inside) =>
      if isFence l then ⟨first, inside, l⟩ :: readFenced none ls
      else readFenced (some (first, inside ++ [l])) ls

/-- Lines outside of fences are passed over. -/
theorem readFenced_none_append {ls : List String} (h : ∀ l ∈ ls, isFence l = false)
    (rest : List String) : readFenced none (ls ++ rest) = readFenced none rest := by
  induction ls with
  | nil => rfl
  | cons l ls ih =>
    have hl := h l List.mem_cons_self
    rw [List.cons_append, readFenced]
    simp only [hl, Bool.false_eq_true, if_false]
    exact ih fun l' hl' => h l' (List.mem_cons_of_mem l hl')

theorem readFenced_some_append {first : String} {inside ls : List String}
    (h : ∀ l ∈ ls, isFence l = false) (rest : List String) :
    readFenced (some (first, inside)) (ls ++ rest) =
      readFenced (some (first, inside ++ ls)) rest := by
  induction ls generalizing inside with
  | nil => rw [List.nil_append, List.append_nil]
  | cons l ls ih =>
    have hl := h l List.mem_cons_self
    rw [List.cons_append, readFenced]
    simp only [hl, Bool.false_eq_true, if_false]
    rw [ih fun l' hl' => h l' (List.mem_cons_of_mem l hl'), List.append_assoc,
      List.singleton_append]

/-- The fences of lines are those of some blocks, and the reader finds these blocks whatever comes
after. -/
structure Fenced (ls : List String) (blocks : List FencedLines) : Prop where
  fences_eq : ls.filter isFence = blocks.flatMap fun block => [block.first, block.last]
  read_append : ∀ rest, readFenced none (ls ++ rest) = blocks ++ readFenced none rest

namespace Fenced

variable {ls ls' : List String} {blocks blocks' : List FencedLines}

theorem of_none (h : ∀ l ∈ ls, isFence l = false) : Fenced ls [] :=
  ⟨List.filter_eq_nil_iff.2 fun l hl => by simp [h l hl], readFenced_none_append h⟩

theorem append (h : Fenced ls blocks) (h' : Fenced ls' blocks') :
    Fenced (ls ++ ls') (blocks ++ blocks') := by
  constructor
  · rw [List.filter_append, h.fences_eq, h'.fences_eq, List.flatMap_append]
  · intro rest
    rw [List.append_assoc, h.read_append, h'.read_append, List.append_assoc]

/-- Two fences around lines without fences are a block. -/
theorem block {first last : String} {inside : List String} (hfirst : isFence first = true)
    (hlast : isFence last = true) (hinside : ∀ l ∈ inside, isFence l = false) :
    Fenced (first :: (inside ++ [last])) [⟨first, inside, last⟩] := by
  constructor
  · have hnone : inside.filter isFence = [] :=
      List.filter_eq_nil_iff.2 fun l hl => by simp [hinside l hl]
    simp [hfirst, hlast, hnone]
  · intro rest
    have hopens : readFenced none (first :: (inside ++ [last]) ++ rest) =
        readFenced (some (first, [])) (inside ++ last :: rest) := by
      rw [List.cons_append, readFenced]
      simp [hfirst]
    rw [hopens, readFenced_some_append hinside, readFenced, List.nil_append]
    simp [hlast]

theorem readFenced_eq (h : Fenced ls blocks) : readFenced none ls = blocks := by
  have hread := h.read_append []
  rwa [List.append_nil, readFenced, List.append_nil] at hread

end Fenced

/-! ### Lines without fences -/

theorem skips_isFence {starts : List String}
    (h : ∀ start ∈ starts, Apart "      // SNIPPET " start) :
    Skips (Option.guard isFence) starts := by
  refine ⟨rfl, fun start hstart l hl => ?_⟩
  rw [Option.guard_eq_none_iff]
  refine decide_eq_false fun hfence => ?_
  rcases List.prefix_or_prefix_of_prefix hfence hl with hprefix | hprefix
  · exact (h start hstart).1 hprefix
  · exact (h start hstart).2 hprefix

theorem isFence_of_filterMap {ls : List String} (h : ls.filterMap (Option.guard isFence) = []) :
    ∀ l ∈ ls, isFence l = false := by
  intro l hl
  exact Option.guard_eq_none_iff.1 (List.filterMap_eq_nil_iff.1 h l hl)

theorem filterMap_plainLines_isFence {g : Generator} (hschema : g.schema = schema) {c : Command}
    (hline : g.schema.serves c = true → c.IsOneLine) :
    (plainLines g c).filterMap (Option.guard isFence) = [] := by
  have hwait : Skips (Option.guard isFence) ["    await "] := skips_isFence (by decide)
  rw [filterMap_plainLines (skips_isFence (by decide)) hschema hline]
  exact filterMap_waitLines hwait g _

theorem filterMap_assignmentLines_isFence (bindings : Fields) :
    (assignmentLines bindings).filterMap (Option.guard isFence) = [] := by
  have hassign : Skips (Option.guard isFence) ["      Object.assign( ENV, "] :=
    skips_isFence (by decide)
  unfold assignmentLines
  split
  · rfl
  · exact List.filterMap_cons_none (hassign.fill (by decide) _ _)

/-! ### Snippets -/

/-- The block of a reference with its snippet. -/
def fencedLines (g : Generator) (p : Command × Test) : FencedLines where
  first := startLine p.2.title
  inside := assignmentLines (p.1.bindings.getD []) ++
    joined ((p.2.enabledCommands.filter (!·.isRef)).map (plainLines g))
  last := endLine p.2.title

theorem fenced_snippetLines {g : Generator} (hschema : g.schema = schema) {c : Command}
    {test : Test}
    (hline : ∀ d ∈ test.enabledCommands.filter (!·.isRef), g.schema.serves d = true →
      d.IsOneLine) :
    Fenced (snippetLines g test (c.bindings.getD [])) [fencedLines g (c, test)] := by
  have hhead : Starts "      // SNIPPET " (toString "      // SNIPPET ") := List.prefix_refl _
  have hfirst : isFence (startLine test.title) = true :=
    decide_eq_true ((hhead.append _).append _)
  have hlast : isFence (endLine test.title) = true :=
    decide_eq_true ((hhead.append _).append _)
  have hinside : ∀ l ∈ (fencedLines g (c, test)).inside, isFence l = false := by
    refine isFence_of_filterMap ?_
    rw [fencedLines, List.filterMap_append, filterMap_assignmentLines_isFence, List.nil_append,
      filterMap_joined rfl]
    exact List.flatMap_eq_nil_iff.2 fun d hd =>
      filterMap_plainLines_isFence hschema (hline d hd)
  have hend : Fenced [""] [] := Fenced.of_none (List.forall_mem_singleton.2 (by decide))
  have hblock := (Fenced.block hfirst hlast hinside).append hend
  have hlines : snippetLines g test (c.bindings.getD []) =
      startLine test.title :: ((fencedLines g (c, test)).inside ++ [endLine test.title]) ++
        [""] := by
    simp [snippetLines, fencedLines]
  rw [hlines]
  exact hblock

theorem fenced_commandLines {g : Generator} (hschema : g.schema = schema) {c : Command}
    (hline : ∀ d ∈ g.snippets.expand c, g.schema.serves d = true → d.IsOneLine) :
    Fenced (commandLines g c) ((g.snippets.inlined? c).toList.map (fencedLines g)) := by
  unfold commandLines SnippetLibrary.inlined?
  cases href : c.isRef with
  | false =>
    rw [SnippetLibrary.expand_of_not_isRef href] at hline
    exact Fenced.of_none (isFence_of_filterMap
      (filterMap_plainLines_isFence hschema (hline c (List.mem_singleton_self c))))
  | true =>
    -- a reference that names no snippet leaves an empty line
    have hempty : Fenced [""] [] := Fenced.of_none (List.forall_mem_singleton.2 (by decide))
    rw [if_pos rfl, if_pos rfl]
    cases hfound : g.snippets.getTest? c.ref with
    | error kind => exact hempty
    | ok found =>
      cases found with
      | none => exact hempty
      | some test =>
        rw [SnippetLibrary.expand_of_isRef href hfound] at hline
        exact fenced_snippetLines hschema hline

theorem fenced_listing {g : Generator} (hschema : g.schema = schema) (hline : g.IsOneLine) :
    Fenced (listing g) (g.inlined.map (fencedLines g)) := by
  have hframe : Skips (Option.guard isFence) frameStarts := skips_isFence (by decide)
  have hids : Skips (Option.guard isFence) ["      INTERACTIVE_IDS = "] :=
    skips_isFence (by decide)
  have hheads : Skips (Option.guard isFence) ["  describe( ", "    test( "] :=
    skips_isFence (by decide)
  have hadditive : Additive fun ls parts => Fenced ls
      (((parts.filterMap Part.command?).filterMap g.snippets.inlined?).map (fencedLines g)) := by
    -- pieces are fenced together, and a line that closes a test or a group is no fence
    refine ⟨Fenced.of_none (List.forall_mem_nil _), fun hls hls' => ?_, fun l hl => ?_⟩
    · rw [List.filterMap_append, List.filterMap_append, List.map_append]
      exact hls.append hls'
    · simp only [List.mem_cons, List.not_mem_nil, or_false] at hl
      refine Fenced.of_none (List.forall_mem_singleton.2 ?_)
      rcases hl with rfl | rfl | rfl <;> decide
  have hbody : Fenced (bodyLines g) (g.inlined.map (fencedLines g)) := by
    rw [GeneratorInput.inlined, ← Suite.filterMap_command?_parts]
    refine hadditive.bodyLines fun part hpart => ?_
    cases part with
    | group group =>
      exact Fenced.of_none (isFence_of_filterMap
        (List.filterMap_cons_none (hheads.fill (by decide) _ _)))
    | test t =>
      exact Fenced.of_none (isFence_of_filterMap
        (List.filterMap_cons_none (hheads.fill (by decide) _ _)))
    | command c =>
      have hc := Suite.mem_enabledCommands_of_mem_parts hpart
      have hcommand := fenced_commandLines hschema (c := c) fun d hd hserves =>
        hline.commands d (GeneratorInput.mem_reached hc hd hserves)
      have hreference : ([Part.command c].filterMap Part.command?).filterMap g.snippets.inlined? =
          (g.snippets.inlined? c).toList := by
        change [c].filterMap g.snippets.inlined? = _
        cases hinlined : g.snippets.inlined? c <;> simp [hinlined]
      rw [hreference]
      exact hcommand
  have hheader : Fenced (headerLines g (g.stopIds (g.suite.encountered g.snippets))) [] := by
    have hidsLine : Option.guard isFence
        (idsLine (g.stopIds (g.suite.encountered g.snippets))) = none :=
      hids.fill (by decide) _ _
    refine Fenced.of_none (isFence_of_filterMap ?_)
    rw [filterMap_headerLines hframe, hidsLine, Option.toList_none]
  have hdeclarations := Fenced.of_none
    (isFence_of_filterMap (filterMap_declarationLines hframe g.resolver.declarations))
  have hsetup := Fenced.of_none
    (isFence_of_filterMap (filterMap_setupLines (hframe.mono setupStarts_subset) g))
  have hend := Fenced.of_none
    (isFence_of_filterMap (filterMap_endLines (hframe.mono setupStarts_subset)))
  have hall := hheader.append (hdeclarations.append (hsetup.append (hbody.append hend)))
  rwa [List.nil_append, List.nil_append, List.nil_append, List.append_nil] at hall

/-! ### What stands between fences -/

/-- A block shows a reference and its snippet: the fences name the snippet, and between them stand
the variables of the reference, if it has any, and the source of the enabled commands of the
snippet that are no references. -/
structure Shows (g : Generator) (p : Command × Test) (block : FencedLines) : Prop where
  first_eq : block.first = s!"      // SNIPPET {p.2.title.display}: START"
  last_eq : block.last = s!"      // SNIPPET {p.2.title.display}: END"
  inside_eq : ∃ fragments,
    ((p.2.enabledCommands.filter (!·.isRef)).mapM fun c => (g.renderCommand c).outcome) =
      .ok fragments ∧
    block.inside = assignmentLines (p.1.bindings.getD []) ++
      lines ("\n".intercalate (fragments.map Fragment.text))

/-- Every enabled command of a suite that has a source was rendered. -/
theorem exists_renderCommand {g : Generator} (hschema : g.schema = schema) {r : Fragment}
    (h : g.generate.outcome = .ok r) {c : Command} (hc : c ∈ g.suite.enabledCommands) :
    ∃ f, (g.renderCommand c).outcome = .ok f := by
  obtain ⟨hverdict, -⟩ := (exists_generate_iff hschema).1 ⟨r, h⟩
  rw [verdict_eq_forM] at hverdict
  have hcheck := forM_eq_ok_iff.1 hverdict c hc
  rw [← check_renderCommand g (Suite.disabled_of_mem_enabledCommands hc)] at hcheck
  exact check_eq_ok_iff.1 hcheck

theorem shows_fencedLines {g : Generator} (hschema : g.schema = schema) (hline : g.IsOneLine)
    {r : Fragment} (h : g.generate.outcome = .ok r) {p : Command × Test} (hp : p ∈ g.inlined) :
    Shows g p (fencedLines g p) := by
  obtain ⟨c, hc, hinlined⟩ := List.mem_filterMap.1 hp
  obtain ⟨href, hfound, rfl⟩ := SnippetLibrary.inlined?_eq_some_iff.1 hinlined
  refine ⟨rfl, rfl, ?_⟩
  obtain ⟨f, hf⟩ := exists_renderCommand hschema h hc
  rw [outcome_renderCommand g (Suite.disabled_of_mem_enabledCommands hc), if_pos href,
    outcome_renderReference, hfound] at hf
  obtain ⟨fragments, hfragments, -⟩ := bind_eq_ok_iff.1 hf
  refine ⟨fragments, ?_, ?_⟩
  · rw [← hfragments]
    -- a command of a snippet that is no reference is rendered as one of a test
    refine mapM_congr fun d hd => ?_
    obtain ⟨henabled, hplain⟩ := List.mem_filter.1 hd
    have hnotRef : d.isRef = false := by simpa using hplain
    have hdisabled : d.disabled = false := by simpa using (List.mem_filter.1 henabled).2
    rw [outcome_renderCommand g hdisabled, hnotRef]
    rfl
  · rw [fencedLines, lines_renderSnippet hschema _ hfragments]
    intro d hd hserves
    rw [← SnippetLibrary.expand_of_isRef href hfound] at hd
    exact hline.commands d (GeneratorInput.mem_reached hc hd hserves)

/-- **Snippets are flat and fenced.**  The fences of a source are those of the references that
resolve, two for each, in order; and what a reader finds between the fences shows these references
with their snippets, one by one. -/
theorem snippets_are_fenced {g : Generator} (hschema : g.schema = schema) (hline : g.IsOneLine)
    {r : Fragment} (h : g.generate.outcome = .ok r) :
    ((lines r.text).filter fun l => Starts "      // SNIPPET " l) =
      (g.inlined.flatMap fun p =>
        [s!"      // SNIPPET {p.2.title.display}: START",
          s!"      // SNIPPET {p.2.title.display}: END"]) ∧
    List.Forall₂ (Shows g) g.inlined (readFenced none (lines r.text)) := by
  have hfenced := fenced_listing hschema hline
  rw [← lines_generate hschema hline h] at hfenced
  constructor
  · have hfences := hfenced.fences_eq
    rw [List.flatMap_map] at hfences
    exact hfences
  · rw [hfenced.readFenced_eq, List.forall₂_map_right_iff, List.forall₂_same]
    exact fun p hp => shows_fencedLines hschema hline h hp

/-- A suite that refers to two snippets that refer to each other, to the first of them with a
variable, and to a snippet that there is not. -/
def cyclicInput : GeneratorInput where
  suite :=
    { title := .text "Shop"
      targets := []
      groups := [
        ("g", {
          id := "g", title := .text "Account", disabled := false
          tests := [
            ("t", {
              id := "t", title := .text "Signs in", disabled := false
              commands := [
                { Command.referring "c1" "login" "g" "t" with
                  bindings := some [("USER", .text "ada")] },
                .referring "c2" "logout" "g" "t", .acting "c3" "page" "reload" "g" "t",
                .referring "c4" "session" "g" "t"] })] })] }
  snippets :=
    { targets := []
      tests := [
        ("login", {
          id := "login", title := .text "Login", disabled := false
          commands := [.acting "s1" "page" "reload" "snippets" "login",
            .referring "s2" "session" "snippets" "login"] }),
        ("session", {
          id := "session", title := .text "Session", disabled := false
          commands := [.referring "s3" "login" "snippets" "session",
            .referring "s4" "session" "snippets" "session"] })] }
  schema

def cyclic : Generator := { cyclicInput with selectors := [], selectors_eq := rfl }

theorem fences_of_cyclic :
    ∃ r, cyclic.generate.outcome = .ok r ∧
      ((lines r.text).filter fun l => Starts "      // SNIPPET " l) =
        ["      // SNIPPET Login: START", "      // SNIPPET Login: END",
          "      // SNIPPET Session: START", "      // SNIPPET Session: END"] ∧
      List.Forall₂ (Shows cyclic) cyclic.inlined (readFenced none (lines r.text)) := by
  have hline : cyclic.IsOneLine := by
    refine ⟨oneLine_ofList.2 (by decide), by decide, ?_⟩
    have hreached : cyclic.reached = [.acting "s1" "page" "reload" "snippets" "login",
      .acting "c3" "page" "reload" "g" "t"] := rfl
    rw [hreached]
    simp only [List.forall_mem_cons]
    exact ⟨⟨by decide, by decide, by decide, by decide⟩,
      ⟨by decide, by decide, by decide, by decide⟩, List.forall_mem_nil _⟩
  have hids : cyclic.generate.outcome.map Fragment.interactiveIds = .ok [] := rfl
  obtain ⟨r, hr, -⟩ := Outcome.map_eq_ok_iff.1 hids
  exact ⟨r, hr, snippets_are_fenced rfl hline hr⟩

end Jest

end SuiteCompiler
