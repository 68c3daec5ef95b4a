/-
  SuiteCompiler/Proofs/DisabledSnippets.lean
  ==========================================
  References to disabled snippets.

  A disabled command, test or group takes no part in a generation.  A snippet is a test
  that a reference finds in the library, and the look-up does not ask whether it is
  disabled.  So a generation is not that of the library without its disabled snippets
  once an enabled command refers to one of these: the commands of the snippet are
  written out, and if one of them fails, so does the generation.

  Without such a reference every command is rendered as before, under any schema
  (`outcome_generate_withoutDisabled`).  With one the source of the built-in schema is
  longer than the other (`within_bodyLines`), so the two generations agree only if they
  fail, and then in what fails besides (`disabled_snippets_are_invisible_iff`).
-/
import SuiteCompiler.Proofs.Instruments
import SuiteCompiler.Proofs.References

namespace SuiteCompiler

open Outcome Text

/-! ### The library without its disabled snippets -/

namespace SnippetLibrary

/-- The library without its disabled snippets. -/
def enabledPart (library : SnippetLibrary) : SnippetLibrary :=
  { library with tests := library.tests.filter fun entry => !entry.2.disabled }

/-- Whether a command refers to a disabled snippet. -/
def refersToDisabled (library : SnippetLibrary) (c : Command) : Bool :=
  c.isRef &&
    match library.getTest? c.ref with
    | .ok (some t) => t.disabled
    | _ => false

theorem lookup_enabled {tests : List (String × Test)} (hkeys : (tests.map (·.1)).Nodup)
    (key : String) : (tests.filter fun entry => !entry.2.disabled).lookup key =
      (tests.lookup key).filter fun t => !t.disabled := by
  have hfiltered : ((tests.filter fun entry => !entry.2.disabled).map (·.1)).Nodup :=
    hkeys.sublist (List.Sublist.map _ List.filter_sublist)
  refine Option.ext fun t => ?_
  rw [lookup_eq_some_iff_mem hfiltered, List.mem_filter, ← lookup_eq_some_iff_mem hkeys,
    Option.filter_eq_some_iff]

theorem getTest?_enabledPart {library : SnippetLibrary}
    (hkeys : (library.tests.map (·.1)).Nodup) (ref : Value) :
    library.enabledPart.getTest? ref =
      (library.getTest? ref).map (Option.filter fun t => !t.disabled) := by
  cases ref with
  | text key => exact congrArg Except.ok (lookup_enabled hkeys key)
  | _ => rfl

end SnippetLibrary

/-- The input without the disabled snippets. -/
def GeneratorInput.withoutDisabled (input : GeneratorInput) : GeneratorInput :=
  { input with snippets := input.snippets.enabledPart }

namespace Generator

/-- The generation without the disabled snippets: the targets are all there. -/
def withoutDisabled (g : Generator) : Generator :=
  { g.toGeneratorInput.withoutDisabled with
    selectors := g.selectors, selectors_eq := g.selectors_eq }

variable {g : Generator} {c : Command}

/-! ### Commands -/

theorem getTest?_of_refersToDisabled (h : g.snippets.refersToDisabled c = true) :
    c.isRef = true ∧ ∃ t, g.snippets.getTest? c.ref = .ok (some t) ∧ t.disabled = true := by
  unfold SnippetLibrary.refersToDisabled at h
  rw [Bool.and_eq_true] at h
  obtain ⟨href, h⟩ := h
  refine ⟨href, ?_⟩
  split at h
  · exact ⟨_, ‹_›, h⟩
  · cases h

section Keys

variable (hkeys : (g.snippets.tests.map (·.1)).Nodup)

include hkeys

/-- What a reference finds without the disabled snippets: nothing if it refers to one of them, and
what it found before if not. -/
theorem getTest?_withoutDisabled (href : c.isRef = true) :
    g.withoutDisabled.snippets.getTest? c.ref =
      if g.snippets.refersToDisabled c then .ok none else g.snippets.getTest? c.ref := by
  rw [show g.withoutDisabled.snippets.getTest? c.ref = _ from
    SnippetLibrary.getTest?_enabledPart hkeys c.ref]
  unfold SnippetLibrary.refersToDisabled
  rw [href]
  cases g.snippets.getTest? c.ref with
  | error kind => rfl
  | ok found =>
    cases found with
    | none => rfl
    | some t => cases hd : t.disabled <;> simp [Except.map, hd]

theorem checkCommand_withoutDisabled (c : Command) :
    g.withoutDisabled.checkCommand c =
      if g.snippets.refersToDisabled c then .ok () else g.checkCommand c := by
  unfold checkCommand
  cases href : c.isRef with
  | false => simp [SnippetLibrary.refersToDisabled, href]; rfl
  | true =>
    rw [getTest?_withoutDisabled hkeys href]
    cases g.snippets.refersToDisabled c <;> rfl

theorem outcome_renderCommand_withoutDisabled (henabled : c.disabled = false)
    (h : g.snippets.refersToDisabled c = false) :
    (g.withoutDisabled.renderCommand c).outcome = (g.renderCommand c).outcome := by
  rw [outcome_renderCommand _ henabled, outcome_renderCommand _ henabled]
  cases href : c.isRef with
  | false => rfl
  | true =>
    rw [if_pos rfl, if_pos rfl, outcome_renderReference, outcome_renderReference,
      getTest?_withoutDisabled hkeys href, h]
    rfl

end Keys

/-! ### Failures -/

/-- The failure of a generation that leaves some of its commands out: that of the first of the
others that cannot be rendered, or else that of the declarations. -/
def verdictWithout (g : Generator) (left : Command → Bool) : Except RenderFailure Unit := do
  (g.suite.enabledCommands.filter (!left ·)).forM g.checkCommand
  (check (g.resolver.render g.schema.composer)).mapError .template

theorem check_generate_withoutDisabled (hkeys : (g.snippets.tests.map (·.1)).Nodup)
    (hschema : g.schema = Jest.schema) :
    check g.withoutDisabled.generate.outcome = g.verdictWithout g.snippets.refersToDisabled := by
  have hcomposer : g.withoutDisabled.schema.composer = Jest.composer :=
    congrArg Schema.composer hschema
  have hverdict : g.withoutDisabled.verdict =
      (g.suite.enabledCommands.filter (!g.snippets.refersToDisabled ·)).forM g.checkCommand := by
    rw [verdict_eq_forM, forM_filter]
    refine forM_congr fun c _ => ?_
    rw [checkCommand_withoutDisabled hkeys c]
    cases g.snippets.refersToDisabled c <;> rfl
  rw [check_generate_of_composer hcomposer, hverdict]
  rfl

/-! ### Sources -/

/-- Two generations of one suite have the same outcome if their commands do, and the suite is
composed alike. -/
theorem outcome_generate_congr {g g' : Generator} (hsuite : g'.suite = g.suite)
    (hcomposer : g'.schema.composer = g.schema.composer)
    (hcommands : ∀ c ∈ g.suite.enabledCommands,
      (g'.renderCommand c).outcome = (g.renderCommand c).outcome)
    (hcompose : ∀ body, g'.composeSuite body = g.composeSuite body) :
    g'.generate.outcome = g.generate.outcome := by
  have htest : ∀ group ∈ g.suite.enabledGroups, ∀ t ∈ group.enabledTests,
      (g'.renderTest t).outcome = (g.renderTest t).outcome := by
    intro group hgroup t ht
    have hmapM : (t.enabledCommands.mapM fun c => (g'.renderCommand c).outcome) =
        t.enabledCommands.mapM fun c => (g.renderCommand c).outcome :=
      mapM_congr fun c hc => hcommands c
        (List.mem_flatMap.2 ⟨group, hgroup, List.mem_flatMap.2 ⟨t, ht, hc⟩⟩)
    rw [outcome_renderTest, outcome_renderTest, hmapM, hcomposer]
  have hgroup : ∀ group ∈ g.suite.enabledGroups,
      (g'.renderGroup group).outcome = (g.renderGroup group).outcome := by
    intro group hgroup
    rw [outcome_renderGroup, outcome_renderGroup, mapM_congr (htest group hgroup), hcomposer]
  have hbody : g'.renderBody = g.renderBody := by
    unfold renderBody
    rw [hsuite, mapM_congr hgroup]
  rw [outcome_generate, outcome_generate, hbody]
  exact bind_congr fun body => by rw [hcompose body]

/-- Under any schema a generation does without the disabled snippets that it does not refer to. -/
theorem outcome_generate_withoutDisabled (hkeys : (g.snippets.tests.map (·.1)).Nodup)
    (h : ∀ c ∈ g.suite.enabledCommands, g.snippets.refersToDisabled c = false) :
    g.withoutDisabled.generate.outcome = g.generate.outcome :=
  outcome_generate_congr rfl rfl
    (fun c hc => outcome_renderCommand_withoutDisabled hkeys
      (Suite.disabled_of_mem_enabledCommands hc) (h c hc))
    fun _ => rfl

end Generator

/-! ### Lengths -/

/-- A block of lines is no longer than another, and if it is as long, then something holds. -/
def Text.Within (P : Prop) (xs' xs : List String) : Prop :=
  (block xs').length ≤ (block xs).length ∧ ((block xs').length = (block xs).length → P)

namespace Text.Within

variable {P Q : Prop} {xs xs' : List String}

theorem refl (hP : P) (xs : List String) : Within P xs xs := ⟨Nat.le_refl _, fun _ => hP⟩

theorem mono (h : Within P xs' xs) (hPQ : P → Q) : Within Q xs' xs := ⟨h.1, fun heq => hPQ (h.2 heq)⟩

theorem append {ys ys' : List String} (hxs : Within P xs' xs) (hys : Within Q ys' ys) :
    Within (P ∧ Q) (xs' ++ ys') (xs ++ ys) := by
  obtain ⟨hxs, hP⟩ := hxs
  obtain ⟨hys, hQ⟩ := hys
  unfold Within
  rw [block_append, block_append, String.length_append, String.length_append]
  exact ⟨by omega, fun heq => ⟨hP (by omega), hQ (by omega)⟩⟩

theorem around (h : Within P xs' xs) (head : String) (close : List String) :
    Within P (head :: (xs' ++ close)) (head :: (xs ++ close)) :=
  (((refl trivial [head]).append h).append (refl trivial close)).mono fun hall => hall.1.2

theorem flatMap {α : Type} {f f' : α → List String} {Q : α → Prop} {as : List α}
    (h : ∀ a ∈ as, Within (Q a) (f' a) (f a)) :
    Within (∀ a ∈ as, Q a) (as.flatMap f') (as.flatMap f) := by
  induction as with
  | nil => exact refl (by simp) []
  | cons a as ih =>
    rw [List.forall_mem_cons] at h
    exact (h.1.append (ih h.2)).mono List.forall_mem_cons.2

/-- Pieces that are joined. -/
theorem joined {α : Type} {f f' : α → List String} {Q : α → Prop} {as : List α}
    (h : ∀ a ∈ as, Within (Q a) (f' a) (f a)) :
    Within (∀ a ∈ as, Q a) (Text.joined (as.map f')) (Text.joined (as.map f)) := by
  cases as with
  | nil => exact refl (by simp) [""]
  | cons a as =>
    rw [joined_map (List.cons_ne_nil a as), joined_map (List.cons_ne_nil a as)]
    exact flatMap h

end Text.Within

namespace Jest

open Generator

variable {g : Generator} {c : Command}

theorem within_commandLines (hkeys : (g.snippets.tests.map (·.1)).Nodup) (c : Command) :
    Within (g.snippets.refersToDisabled c = false) (commandLines g.withoutDisabled c)
      (commandLines g c) := by
  cases h : g.snippets.refersToDisabled c with
  | false =>
    have hlines : commandLines g.withoutDisabled c = commandLines g c := by
      unfold commandLines
      cases href : c.isRef with
      | false => rfl
      | true =>
        rw [getTest?_withoutDisabled hkeys href, h]
        rfl
    rw [hlines]
    exact .refl rfl _
  | true =>
    obtain ⟨href, t, ht, -⟩ := getTest?_of_refersToDisabled h
    have hempty : commandLines g.withoutDisabled c = [""] := by
      unfold commandLines
      rw [getTest?_withoutDisabled hkeys href, h, if_pos href]
      rfl
    have hsnippet : commandLines g c = snippetLines g t (c.bindings.getD []) := by
      unfold commandLines
      rw [if_pos href, ht]
    -- a snippet has the lines that enclose it, even if it has no commands
    have hlonger : (block [""]).length < (block (snippetLines g t (c.bindings.getD []))).length := by
      simp only [snippetLines, block, block_append, String.length_append, List.append_assoc]
      have hnewline : "\n".length = 1 := rfl
      have hnone : "".length = 0 := rfl
      omega
    rw [hempty, hsnippet]
    exact ⟨hlonger.le, fun heq => absurd heq hlonger.ne⟩

/-- The body is no longer without the disabled snippets, and it is shorter if it refers to one. -/
theorem within_bodyLines (hkeys : (g.snippets.tests.map (·.1)).Nodup) :
    Within (∀ c ∈ g.suite.enabledCommands, g.snippets.refersToDisabled c = false)
      (bodyLines g.withoutDisabled) (bodyLines g) := by
  have htest : ∀ t, Within (∀ c ∈ t.enabledCommands, g.snippets.refersToDisabled c = false)
      (testLines g.withoutDisabled t) (testLines g t) := fun t =>
    (Within.joined fun c _ => within_commandLines hkeys c).around _ _
  have hgroup : ∀ group : Group, Within (∀ t ∈ group.enabledTests.filter Test.hasCommands,
      ∀ c ∈ t.enabledCommands, g.snippets.refersToDisabled c = false)
      (groupLines g.withoutDisabled group) (groupLines g group) := fun group =>
    (Within.joined fun t _ => htest t).around _ _
  have hbody : Within (∀ group ∈ g.suite.enabledGroups.filter Group.hasCommands,
      ∀ t ∈ group.enabledTests.filter Test.hasCommands, ∀ c ∈ t.enabledCommands,
        g.snippets.refersToDisabled c = false)
      (bodyLines g.withoutDisabled) (bodyLines g) :=
    Within.joined fun group _ => hgroup group
  refine hbody.mono fun hall c hc => ?_
  obtain ⟨group, hmem, hc⟩ := List.mem_flatMap.1 hc
  obtain ⟨t, ht, hc⟩ := List.mem_flatMap.1 hc
  have htest : t.hasCommands = true := by
    simpa [Test.hasCommands] using List.ne_nil_of_mem hc
  have hgroup : group.hasCommands = true := List.any_eq_true.2 ⟨t, ht, htest⟩
  exact hall group (List.mem_filter.2 ⟨hmem, hgroup⟩) t (List.mem_filter.2 ⟨ht, htest⟩) c hc

/-- Two sources that are equal have bodies of one length. -/
theorem forall_of_sources_eq (hkeys : (g.snippets.tests.map (·.1)).Nodup)
    (hschema : g.schema = schema) {r : Fragment} (h : g.generate.outcome = .ok r)
    (h' : g.withoutDisabled.generate.outcome = .ok r) :
    ∀ c ∈ g.suite.enabledCommands, g.snippets.refersToDisabled c = false := by
  have hkeeps : g.schema.composer.KeepsBodies := hschema ▸ keepsBodies_composer
  have hids := interactiveIds_eq_stopIds g hkeeps h
  have hids' := interactiveIds_eq_stopIds g.withoutDisabled hkeeps h'
  have hmade := madeOf_generate hschema h
  have hmade' := madeOf_generate (g := g.withoutDisabled) hschema h'
  have hblocks : block (listing g.withoutDisabled) = block (listing g) := hmade'.symm.trans hmade
  -- all but the body is written of what both have
  have hlength : (block (bodyLines g.withoutDisabled)).length = (block (bodyLines g)).length := by
    unfold listing at hblocks
    rw [← hids, ← hids'] at hblocks
    have hlengths := congrArg String.length hblocks
    simp only [block_append, String.length_append] at hlengths
    have hheader : headerLines g.withoutDisabled r.interactiveIds =
        headerLines g r.interactiveIds := rfl
    have hdeclarations : g.withoutDisabled.resolver = g.resolver := rfl
    have hsetup : setupLines g.withoutDisabled = setupLines g := rfl
    rw [hheader, hdeclarations, hsetup] at hlengths
    omega
  exact (within_bodyLines hkeys).2 hlength

/-- A generation and that without the disabled snippets agree if no command refers to one of them,
or if both fail and the failure has nothing to do with them. -/
theorem outcomes_eq_iff (hkeys : (g.snippets.tests.map (·.1)).Nodup) (hschema : g.schema = schema) :
    g.withoutDisabled.generate.outcome = g.generate.outcome ↔
      (∀ c ∈ g.suite.enabledCommands, g.snippets.refersToDisabled c = false) ∨
        ∃ failure, g.generate.outcome = .error failure ∧
          g.verdictWithout g.snippets.refersToDisabled = .error failure := by
  rw [← check_generate_withoutDisabled hkeys hschema]
  constructor
  · intro heq
    cases h : g.generate.outcome with
    | ok r => exact .inl (forall_of_sources_eq hkeys hschema h (heq.trans h))
    | error failure => exact .inr ⟨failure, rfl, by rw [heq, h, check_error]⟩
  · rintro (hnone | ⟨failure, h, h'⟩)
    · exact outcome_generate_withoutDisabled hkeys hnone
    · rw [h, check_eq_error_iff.1 h']

end Jest

namespace Generator

/-- **Disabled snippets are invisible only where nothing refers to them.**  The input without them
can be set up if and only if the whole can, with the same fault if it cannot.  Under any schema the
two generations have the same outcome if no enabled command refers to a disabled snippet.  Under the
built-in schema they have it in one more case only, namely if both fail: the first failure that is
none of a reference to a disabled snippet is then that of the whole. -/
theorem disabled_snippets_are_invisible_iff {input : GeneratorInput}
    (hkeys : (input.snippets.tests.map (·.1)).Nodup) :
    (∀ fault, ofInput input = .error fault ↔ ofInput input.withoutDisabled = .error fault) ∧
    ∀ g, ofInput input = .ok g → ∃ g', ofInput input.withoutDisabled = .ok g' ∧
      ((∀ c ∈ input.suite.enabledCommands, input.snippets.refersToDisabled c = false) →
        g'.generate.outcome = g.generate.outcome) ∧
      (input.schema = Jest.schema →
        (g'.generate.outcome = g.generate.outcome ↔
          (∀ c ∈ input.suite.enabledCommands, input.snippets.refersToDisabled c = false) ∨
            ∃ failure, g.generate.outcome = .error failure ∧
              g.verdictWithout input.snippets.refersToDisabled = .error failure)) := by
  have hcongr := ofInput_congr input input.withoutDisabled rfl rfl
  refine ⟨hcongr.1, fun g hg => ?_⟩
  obtain rfl := toGeneratorInput_of_ofInput hg
  exact ⟨g.withoutDisabled, (hcongr.2 g g.withoutDisabled rfl rfl).1 hg,
    outcome_generate_withoutDisabled hkeys, Jest.outcomes_eq_iff hkeys⟩

/-- A suite whose only command is a reference, and a library of two snippets: one that is disabled,
and one that is not. -/
def referringInput (ref : String) : GeneratorInput where
  suite :=
    { title := .text "Shop"
      targets := []
      groups := [("g", {
        id := "g", title := .text "Cart", disabled := false
        tests := [("t", {
          id := "t", title := .text "Enters", disabled := false
          commands := [.referring "c" ref "g" "t"] })] })] }
  schema := Jest.schema
  snippets :=
    { targets := []
      tests := [
        ("login", {
          id := "login", title := .text "Log in", disabled := true
          commands := [.acting "s" "page" "reload" "snippets" "login"] }),
        ("visit", {
          id := "visit", title := .text "Visit", disabled := false
          commands := [.acting "s" "page" "reload" "snippets" "visit"] })] }

def referring (ref : String) : Generator :=
  { referringInput ref with selectors := [], selectors_eq := rfl }

/-- The snippet that is not disabled is written out without the other. -/
theorem visit_without_login :
    (referringInput "visit").withoutDisabled.snippets.tests.map (·.1) = ["visit"] ∧
    ∃ g', ofInput (referringInput "visit").withoutDisabled = .ok g' ∧
      g'.generate.outcome = (referring "visit").generate.outcome := by
  refine ⟨by decide, ?_⟩
  have hkeys : ((referringInput "visit").snippets.tests.map (·.1)).Nodup := by decide
  obtain ⟨-, hset⟩ := disabled_snippets_are_invisible_iff hkeys
  obtain ⟨g', hg', hsame, -⟩ := hset (referring "visit") rfl
  exact ⟨g', hg', hsame (by decide)⟩

/-- The source has the disabled snippet that its suite refers to: it is not the source of the
library without that snippet. -/
theorem disabled_snippet_is_written_out :
    (∃ t, (referringInput "login").snippets.getTest? (.text "login") = .ok (some t) ∧
      t.disabled = true) ∧
    ∃ g g' r r', ofInput (referringInput "login") = .ok g ∧
      ofInput (referringInput "login").withoutDisabled = .ok g' ∧
      g.generate.outcome = .ok r ∧ g'.generate.outcome = .ok r' ∧ r' ≠ r := by
  have hkeys : ((referring "login").snippets.tests.map (·.1)).Nodup := by decide
  have hchecked : check (referring "login").generate.outcome = .ok () := by
    rw [check_generate_of_composer rfl]
    rfl
  have hchecked' : check (referring "login").withoutDisabled.generate.outcome = .ok () := by
    rw [check_generate_withoutDisabled hkeys rfl]
    rfl
  obtain ⟨r, hr⟩ := check_eq_ok_iff.1 hchecked
  obtain ⟨r', hr'⟩ := check_eq_ok_iff.1 hchecked'
  refine ⟨⟨_, rfl, rfl⟩, _, _, r, r', rfl, rfl, hr, hr', ?_⟩
  rintro rfl
  rcases (Jest.outcomes_eq_iff hkeys rfl).1 (hr'.trans hr.symm) with hnone | ⟨failure, h, -⟩
  · exact absurd hnone (by decide)
  · cases hr.symm.trans h

end Generator

end SuiteCompiler
