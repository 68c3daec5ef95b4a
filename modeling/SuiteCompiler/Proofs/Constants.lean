/-
  SuiteCompiler/Proofs/Constants.lean
  ===================================
  The constants that a source declares.

  A source declares constants in its header and one for every declaration of a target;
  a file that declares a constant twice cannot be run.  The constants can be read back
  from the lines (`readConstants`): a declaration starts a line and goes on after a
  comma.  Nothing but the header and the targets declares one, so they are those of the
  template and the names of the declared targets.

  The declarations leave out a target of the snippets that has the name of a target of
  the suite, so two documents never clash.  But within one document two targets may have
  one name, under ids of their own, and any target may have the name of a constant of
  the template.  `constants_distinct_iff` says that these are the only ways in which a
  constant is declared twice.
-/
import Mathlib.Data.List.Nodup
import SuiteCompiler.Proofs.Readers

namespace SuiteCompiler

open Outcome Text

namespace Jest

open Generator

/-! ### Reading constants -/

/-- How a line begins that declares a constant: the first one, or one after a comma. -/
def declaringStart (continued : Bool) : String := if continued then "      " else "const "

/-- What a text has before its first blank. -/
def beforeBlank (s : String) : String := String.ofList (s.toList.takeWhile (· ≠ ' '))

/-- Whether a declaration goes on after a line. -/
def goesOn (line : String) : Bool := line.toList.getLast? = some ','

/-- The constants that lines declare. -/
def readConstants (continued : Bool) : List String → List String
  | [] => []
  | l :: ls =>
    match between? (declaringStart continued) "" l with
    | none => readConstants false ls
    | some declared => beforeBlank declared :: readConstants (goesOn l) ls

/-- Lines that start no declaration are passed over. -/
theorem readConstants_append_of_none {ls : List String}
    (h : ls.filterMap (between? "const " "") = []) (rest : List String) :
    readConstants false (ls ++ rest) = readConstants false rest := by
  induction ls with
  | nil => rfl
  | cons l ls ih =>
    rw [List.filterMap_eq_nil_iff, List.forall_mem_cons] at h
    have hl : between? (declaringStart false) "" l = none := h.1
    rw [List.cons_append, readConstants, hl]
    exact ih (List.filterMap_eq_nil_iff.2 h.2)

theorem beforeBlank_append {name : String} (hname : ' ' ∉ name.toList) (rest : String) :
    beforeBlank (name ++ " " ++ rest) = name := by
  have hall : ∀ c ∈ name.toList, decide (c ≠ ' ') = true := fun c hc =>
    decide_eq_true fun hblank => hname (hblank ▸ hc)
  have htext : (name ++ " " ++ rest).toList = name.toList ++ ' ' :: rest.toList := by simp
  rw [beforeBlank, htext, List.takeWhile_append_of_pos hall, List.takeWhile_cons_of_neg (by simp),
    List.append_nil, String.ofList_toList]

/-- A line declares a constant, and another one is declared in the next line or not. -/
structure Declares (continued : Bool) (name : String) (another : Bool) (line : String) : Prop where
  starts : Starts (declaringStart continued ++ name ++ " ") line
  goesOn_eq : goesOn line = another

theorem goesOn_append {another : Bool} {cs : List Char}
    (hcs : cs.getLast?.map (decide <| · = ',') = some another) (s : String) :
    goesOn (s ++ String.ofList cs) = another := by
  obtain ⟨c, hlast, hc⟩ := Option.map_eq_some_iff.1 hcs
  rw [goesOn, String.toList_append, String.toList_ofList, List.getLast?_append, hlast,
    Option.some_or, ← hc]
  simp

/-- A line with a value between two literals, of which the first names the constant. -/
theorem Declares.fill {continued another : Bool} {name : String} {cs cs' : List Char}
    (hcs : (declaringStart continued ++ name ++ " ").toList <+: cs)
    (hcs' : cs'.getLast?.map (decide <| · = ',') = some another) (value : String) :
    Declares continued name another (String.ofList cs ++ value ++ String.ofList cs') := by
  have hhead : Starts (declaringStart continued ++ name ++ " ") (String.ofList cs) := by
    rwa [Starts, String.toList_ofList]
  exact ⟨(hhead.append value).append _, goesOn_append hcs' _⟩

theorem readConstants_cons {continued another : Bool} {name l : String}
    (hname : ' ' ∉ name.toList) (h : Declares continued name another l) (ls : List String) :
    readConstants continued (l :: ls) = name :: readConstants another ls := by
  -- `between?` with nothing after it gives all that follows the beginning
  obtain ⟨cs, hcs⟩ := h.starts
  have hline : l = declaringStart continued ++ (name ++ " " ++ String.ofList cs) ++ "" := by
    rw [← String.toList_inj, ← hcs]
    simp
  rw [readConstants, between?_eq_some_iff.2 hline, h.goesOn_eq]
  exact congrArg (· :: readConstants another ls) (beforeBlank_append hname _)

/-! ### Constants of a source -/

def templateConstants : List String :=
  ["BrowserSession", "bs", "ENV", "OPTIONS", "PROJECT_DIRECTORY", "INTERACTIVE_IDS"]

/-- The constants of the source of a suite: those of the template, and one for each declaration. -/
def constants (g : Generator) : List String :=
  templateConstants ++ g.resolver.declarations.map (·.name.display)

theorem skips_const {starts : List String} (h : ∀ start ∈ starts, Apart "const " start) :
    Skips (between? "const " "") starts :=
  skips_between? "" (by decide) h

theorem readConstants_headerLines (g : Generator) (ids rest : List String) :
    readConstants false (headerLines g ids ++ rest) =
      templateConstants ++ readConstants false rest := by
  have hskips : Skips (between? "const " "") ["/**", " * ", " */"] := skips_const (by decide)
  have hcomment : ["/**", s!" * {g.suite.title.display}", runnerLine g.runner, " */"].filterMap
      (between? "const " "") = [] := by
    rw [List.filterMap_eq_nil_iff]
    unfold runnerLine
    simp only [List.forall_mem_cons, List.not_mem_nil, false_implies, implies_true, and_true]
    exact ⟨hskips.literal (by decide), hskips.append (by decide) _, hskips.fill (by decide) _ _,
      hskips.literal (by decide)⟩
  have hempty : [""].filterMap (between? "const " "") = [] :=
    List.filterMap_cons_none hskips.empty
  have hrequire : Declares false "BrowserSession" true
      "const BrowserSession = require( \"./lib/BrowserSession\" )," := ⟨by decide, by decide⟩
  have hsession : Declares true "bs" false
      s!"      bs = new BrowserSession( {g.outputDirectory.script} );" :=
    .fill (by decide) (by decide) _
  have henv : Declares false "ENV" true s!"const ENV = {(Value.object g.env).script}," :=
    .fill (by decide) (by decide) _
  have hoptions : Declares true "OPTIONS" true
      s!"      OPTIONS = {(Value.object g.options.toFields).script}," :=
    .fill (by decide) (by decide) _
  have hproject : Declares true "PROJECT_DIRECTORY" true
      s!"      PROJECT_DIRECTORY = {g.projectDirectory.script}," :=
    .fill (by decide) (by decide) _
  have hids : Declares true "INTERACTIVE_IDS" false
      s!"      INTERACTIVE_IDS = {(Value.list (ids.map .text)).script};" :=
    .fill (by decide) (by decide) _
  -- a comment, two declarations, an empty line, four declarations and an empty line
  change readConstants false
    ([_, _, _, _] ++ (_ :: _ :: ([_] ++ (_ :: _ :: _ :: _ :: ([_] ++ rest))))) = _
  rw [readConstants_append_of_none hcomment, readConstants_cons (by decide) hrequire,
    readConstants_cons (by decide) hsession, readConstants_append_of_none hempty,
    readConstants_cons (by decide) henv, readConstants_cons (by decide) hoptions,
    readConstants_cons (by decide) hproject, readConstants_cons (by decide) hids,
    readConstants_append_of_none hempty]
  rfl

theorem declares_declarationLine (t : Target) :
    Declares false t.name.display false (declarationLine t) := by
  constructor
  · have hname : Starts (toString "const " ++ toString t.name.display ++ " ")
        (toString "const " ++ toString t.name.display ++
          toString " = async () => await bs.query( ") := starts_append_left.2 (by decide)
    exact (((hname.append _).append _).append _).append _
  · exact goesOn_append (by decide) _

theorem readConstants_declarationLines {ts : List Target}
    (hnames : ∀ t ∈ ts, ' ' ∉ t.name.display.toList) (rest : List String) :
    readConstants false (ts.map declarationLine ++ rest) =
      ts.map (·.name.display) ++ readConstants false rest := by
  induction ts with
  | nil => rfl
  | cons t ts ih =>
    rw [List.forall_mem_cons] at hnames
    rw [List.map_cons, List.cons_append, readConstants_cons hnames.1 (declares_declarationLine t),
      ih hnames.2]
    rfl

theorem readConstants_listing {g : Generator} (hschema : g.schema = schema) (hline : g.IsOneLine)
    (hnames : ∀ t ∈ g.resolver.declarations, ' ' ∉ t.name.display.toList) :
    readConstants false (listing g) = constants g := by
  have hsetup : Skips (between? "const " "") setupStarts := skips_const (by decide)
  have hbody : Skips (between? "const " "") bodyStarts := skips_const (by decide)
  have hwait : Skips (between? "const " "") ["    await "] := skips_const (by decide)
  have hgroups : (bodyLines g).filterMap (between? "const " "") = [] := by
    rw [filterMap_bodyLines_of_skips hbody hschema hline]
    exact filterMap_waitLines hwait g _
  have hrest : readConstants false (setupLines g ++ (bodyLines g ++ ["\x7d);", ""])) = [] := by
    rw [readConstants_append_of_none (filterMap_setupLines hsetup g),
      readConstants_append_of_none hgroups, ← List.append_nil ["\x7d);", ""],
      readConstants_append_of_none (filterMap_endLines hsetup)]
    rfl
  rw [listing, readConstants_headerLines, constants]
  refine congrArg (templateConstants ++ ·) ?_
  cases hdeclared : g.resolver.declarations with
  | nil =>
    -- no declarations leave an empty line
    exact (readConstants_append_of_none (List.filterMap_cons_none hsetup.empty) _).trans hrest
  | cons t ts =>
    rw [hdeclared] at hnames
    change readConstants false (((t :: ts).map fun t => [declarationLine t]).flatten ++ _) = _
    rw [← List.flatMap_def, ← List.map_eq_flatMap, readConstants_declarationLines hnames, hrest,
      List.append_nil]

end Jest

/-! ### Names of declarations -/

/-- The declarations leave out the names of the suite among those of the snippets, so their names
are distinct if those of each document are. -/
theorem TargetResolver.nodup_names_declarations_iff {r : TargetResolver}
    (hnames : ∀ t ∈ r.declarations, ∃ name, t.name = .text name) :
    (r.declarations.map Target.name).Nodup ↔
      (r.suite.map Target.name).Nodup ∧
        ((r.snippets.filter (!r.isShadowed ·)).map Target.name).Nodup := by
  have hdisjoint : ∀ n ∈ (r.snippets.filter (!r.isShadowed ·)).map Target.name,
      ∀ n' ∈ r.suite.map Target.name, n ≠ n' := by
    intro n hn n' hn' heq
    obtain ⟨t, ht, rfl⟩ := List.mem_map.1 hn
    obtain ⟨s, hs, rfl⟩ := List.mem_map.1 hn'
    obtain ⟨name, hname⟩ := hnames t (List.mem_append_left _ ht)
    have hsame : s.name.sameKey t.name = true := by
      rw [← heq, hname, Value.sameKey_text, decide_eq_true rfl]
    have hshadowed : r.isShadowed t = true :=
      List.any_eq_true.2 ⟨s, hs, by rw [hsame, Bool.or_true]⟩
    simp [hshadowed] at ht
  -- that the names of two documents differ is never a condition
  rw [TargetResolver.declarations, List.map_append, List.nodup_append]
  exact ⟨fun h => ⟨h.2.1, h.1⟩, fun h => ⟨h.2, h.1, hdisjoint⟩⟩

namespace Jest

open Generator

theorem nodup_constants_iff {g : Generator}
    (hnames : ∀ t ∈ g.resolver.declarations, ∃ name, t.name = .text name) :
    (constants g).Nodup ↔
      (g.resolver.declarations.map Target.name).Nodup ∧
        ∀ t ∈ g.resolver.declarations, t.name.display ∉ templateConstants := by
  have hdisplay : g.resolver.declarations.map (·.name.display) =
      (g.resolver.declarations.map Target.name).map Value.display := by
    rw [List.map_map]
    rfl
  have hinjective : ∀ v ∈ g.resolver.declarations.map Target.name,
      ∀ v' ∈ g.resolver.declarations.map Target.name, v.display = v'.display → v = v' := by
    intro v hv v' hv' heq
    obtain ⟨t, ht, rfl⟩ := List.mem_map.1 hv
    obtain ⟨t', ht', rfl⟩ := List.mem_map.1 hv'
    obtain ⟨name, hname⟩ := hnames t ht
    obtain ⟨name', hname'⟩ := hnames t' ht'
    rw [hname, hname'] at heq ⊢
    exact congrArg Value.text heq
  have htemplate : templateConstants.Nodup := by decide
  rw [constants, List.nodup_append, hdisplay]
  constructor
  · rintro ⟨-, hnodup, hdisjoint⟩
    refine ⟨List.Nodup.of_map _ hnodup, fun t ht hmem => ?_⟩
    exact hdisjoint _ hmem _ (List.mem_map_of_mem (List.mem_map_of_mem ht)) rfl
  · rintro ⟨hnodup, houtside⟩
    refine ⟨htemplate, List.Nodup.map_on hinjective hnodup, ?_⟩
    rintro n hn n' hn' rfl
    obtain ⟨v, hv, rfl⟩ := List.mem_map.1 hn'
    obtain ⟨t, ht, rfl⟩ := List.mem_map.1 hv
    exact houtside t ht hn

/-- **When no constant is declared twice.**  The constants of a source are those of the template
and the names of the declared targets, as a reader of its lines finds them.  They are distinct if
and only if no two targets of the suite have one name, nor two targets of the snippets that are
declared, and no declared target has the name of a constant of the template. -/
theorem constants_distinct_iff {g : Generator} (hschema : g.schema = schema) {r : Fragment}
    (h : g.generate.outcome = .ok r) :
    (g.IsOneLine → readConstants false (lines r.text) = constants g) ∧
      ((constants g).Nodup ↔
        (g.suite.targets.declarable.map Target.name).Nodup ∧
        ((g.snippets.targets.declarable.filter (!g.resolver.isShadowed ·)).map Target.name).Nodup ∧
        ∀ t ∈ g.resolver.declarations, t.name.display ∉ templateConstants) := by
  obtain ⟨-, hidentifiers⟩ := (exists_generate_iff hschema).1 ⟨r, h⟩
  have hnames : ∀ t ∈ g.resolver.declarations, ∃ name, t.name = .text name := fun t ht =>
    (hidentifiers t ht).imp fun _ => And.left
  constructor
  · intro hline
    rw [lines_generate hschema hline h]
    refine readConstants_listing hschema hline fun t ht => ?_
    obtain ⟨name, hname, hidentifier⟩ := hidentifiers t ht
    rw [hname]
    exact notMem_of_isIdentifier hidentifier (by decide +kernel)
  · rw [nodup_constants_iff hnames, TargetResolver.nodup_names_declarations_iff hnames, and_assoc]
    rfl

/-- A suite without groups and a library without snippets, with these targets. -/
def targetsInput (suite snippets : Targets) : GeneratorInput where
  suite := { title := .text "Shop", targets := suite, groups := [] }
  schema
  snippets := { targets := snippets, tests := [] }

theorem isOneLine_targetsInput (suite snippets : Targets) :
    (targetsInput suite snippets).IsOneLine :=
  ⟨oneLine_ofList.2 (by decide), List.forall_mem_nil _, List.forall_mem_nil _⟩

/-- A suite and snippets with a target of one name, and a target of the snippets alone. -/
def sharing : Generator :=
  { targetsInput [(.text "1", ⟨.text "BUY", .text "#buy", .text "1"⟩)]
      [(.text "2", ⟨.text "USER", .text "#user", .text "2"⟩),
        (.text "3", ⟨.text "BUY", .text ".buy", .text "3"⟩)] with
    selectors := [(.text "USER", .text "#user"), (.text "BUY", .text "#buy")]
    selectors_eq := rfl }

theorem constants_of_sharing :
    ∃ r, sharing.generate.outcome = .ok r ∧
      readConstants false (lines r.text) = templateConstants ++ ["USER", "BUY"] ∧
      (constants sharing).Nodup := by
  have hidentifiers : ∀ t ∈ sharing.resolver.declarations, ∃ name, t.name = .text name ∧
      isIdentifier name = true := by
    have hdeclarations : sharing.resolver.declarations =
        [⟨.text "USER", .text "#user", .text "2"⟩, ⟨.text "BUY", .text "#buy", .text "1"⟩] := rfl
    rw [hdeclarations, List.forall_mem_cons, List.forall_mem_singleton]
    exact ⟨⟨"USER", rfl, by decide +kernel⟩, "BUY", rfl, by decide +kernel⟩
  obtain ⟨r, hr⟩ := (exists_generate_iff rfl).2 ⟨rfl, hidentifiers⟩
  obtain ⟨hread, hdistinct⟩ := constants_distinct_iff rfl hr
  exact ⟨r, hr, hread (isOneLine_targetsInput _ _), hdistinct.2 ⟨by decide, by decide, by decide⟩⟩

/-- A suite with two targets of one name. -/
def repeating : Generator :=
  { targetsInput [(.text "1", ⟨.text "BTN", .text "#a", .text "1"⟩),
      (.text "2", ⟨.text "BTN", .text "#b", .text "2"⟩)] [] with
    selectors := [(.text "BTN", .text "#b")]
    selectors_eq := rfl }

theorem constant_is_declared_twice :
    ∃ r, repeating.generate.outcome = .ok r ∧
      readConstants false (lines r.text) = templateConstants ++ ["BTN", "BTN"] ∧
      ¬ (constants repeating).Nodup := by
  have hdeclarations : repeating.resolver.declarations =
      [⟨.text "BTN", .text "#a", .text "1"⟩, ⟨.text "BTN", .text "#b", .text "2"⟩] := rfl
  have hidentifiers : ∀ t ∈ repeating.resolver.declarations, ∃ name, t.name = .text name ∧
      isIdentifier name = true := by
    rw [hdeclarations, List.forall_mem_cons, List.forall_mem_singleton]
    exact ⟨⟨"BTN", rfl, by decide +kernel⟩, "BTN", rfl, by decide +kernel⟩
  have hline : repeating.IsOneLine := isOneLine_targetsInput _ _
  obtain ⟨r, hr⟩ := (exists_generate_iff rfl).2 ⟨rfl, hidentifiers⟩
  refine ⟨r, hr, ?_, by decide⟩
  rw [lines_generate rfl hline hr, readConstants_listing rfl hline, constants, hdeclarations]
  · rfl
  · rw [hdeclarations]
    decide

end Jest

end SuiteCompiler
