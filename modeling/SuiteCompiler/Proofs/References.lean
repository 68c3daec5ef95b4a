/-
  SuiteCompiler/Proofs/References.lean
  ====================================
  The snippet that a reference names.

  A snippet has an id: that of its record, or else the key under which the document lists
  it.  The library keeps it under the key, and a reference is looked up among the keys.  So
  a reference finds the snippet of its id, and every snippet is found by its id, if and only
  if no record has an id that differs from its key (`finds_ids_iff`).  Where that is so, a
  reference to the id of a snippet is written out as that snippet.
-/
import SuiteCompiler.Proofs.DistinctNames
import SuiteCompiler.Proofs.RoundTrip
import SuiteCompiler.Proofs.Traceability

namespace SuiteCompiler

theorem lookup_eq_some_iff_mem {α : Type} {entries : List (String × α)}
    (h : (entries.map (·.1)).Nodup) {key : String} {a : α} :
    entries.lookup key = some a ↔ (key, a) ∈ entries := by
  constructor
  · exact mem_of_lookup
  · intro hmem
    obtain ⟨before, after, rfl⟩ := List.append_of_mem hmem
    refine List.lookup_eq_some_iff.2 ⟨before, after, rfl, ?_⟩
    intro entry hentry
    rw [List.map_append, List.nodup_append] at h
    have hne := h.2.2 entry.1 (List.mem_map_of_mem hentry) key (by simp)
    simpa [bne_iff_ne] using hne.symm

/-- The source of a reference that names a snippet: the commands of the snippet that refer to
nothing, in a fence with the title of the snippet. -/
def Generator.inlined (g : Generator) (t : Test) (bindings : Fields) :
    Except RenderFailure Fragment := do
  let body ← (t.enabledCommands.filter (!·.isRef)).mapM fun c => (g.renderPlain c).outcome
  return ⟨Instrumentation.fence t.title (Fragment.join body "\n").text (assignment bindings),
    (Fragment.join body "\n").interactiveIds⟩

namespace SnippetLibrary

variable {v : Value} {library : SnippetLibrary}

/-- References are looked up by id: what is found has the id of the reference, and each snippet is
found by its id. -/
structure FindsIds (library : SnippetLibrary) : Prop where
  sound : ∀ ref t, library.getTest? (.text ref) = .ok (some t) → t.id = ref
  complete : ∀ entry ∈ library.tests, ∃ t, library.getTest? (.text entry.2.id) = .ok (some t)

theorem getTest?_text_iff (hkeys : (library.tests.map (·.1)).Nodup) {ref : String} {t : Test} :
    library.getTest? (.text ref) = .ok (some t) ↔ (ref, t) ∈ library.tests := by
  rw [← lookup_eq_some_iff_mem hkeys]
  exact ⟨Except.ok.inj, congrArg Except.ok⟩

theorem findsIds_iff_keys (hkeys : (library.tests.map (·.1)).Nodup) :
    library.FindsIds ↔ ∀ entry ∈ library.tests, entry.2.id = entry.1 := by
  constructor
  · intro h entry hentry
    exact h.sound entry.1 entry.2 ((getTest?_text_iff hkeys).2 hentry)
  · intro h
    constructor
    · intro ref t hfound
      exact h (ref, t) ((getTest?_text_iff hkeys).1 hfound)
    · intro entry hentry
      rw [h entry hentry]
      exact ⟨entry.2, (getTest?_text_iff hkeys).2 hentry⟩

theorem KeptFrom.keys (h : KeptFrom v library) :
    library.tests.map (·.1) = (listedTests v).members.map (·.1) :=
  map_eq_map_of_forall₂ h fun _ _ hkept => hkept.key

theorem KeptFrom.findsIds_iff (h : KeptFrom v library)
    (hkeys : ((listedTests v).members.map (·.1)).Nodup) :
    library.FindsIds ↔ ∀ entry ∈ (listedTests v).members, listedId entry = entry.1 := by
  have hlists : library.tests.map (fun entry => entry.2.id) = library.tests.map (·.1) ↔
      (listedTests v).members.map listedId = (listedTests v).members.map (·.1) := by
    rw [Test.ids_of_forall₂ h, h.keys]
  rw [findsIds_iff_keys (h.keys ▸ hkeys), ← List.map_inj_left, hlists, List.map_inj_left]

theorem hasDistinctNames_listedTests (h : v.HasDistinctNames) :
    (listedTests v).HasDistinctNames := by
  unfold listedTests
  cases htests : v.members.get? "tests" with
  | some listed => exact h.of_get? htests
  | none => exact ((h.member "groups").member groupId).member "tests"

theorem outcome_renderReference_of_mem {g : Generator} (hkeys : (g.snippets.tests.map (·.1)).Nodup)
    {ref : String} {t : Test} (h : (ref, t) ∈ g.snippets.tests) (bindings : Fields) :
    (g.renderReference (.text ref) bindings).outcome = g.inlined t bindings := by
  rw [Generator.outcome_renderReference, (getTest?_text_iff hkeys).2 h]
  rfl

/-- **What a reference names.**  Of a document without repeated names, such as every document that is
read, a reference names the snippet that is listed under it.  Snippets are found by their ids if and
only if each is listed under its id; then a reference to the id of a snippet is written out as that
snippet. -/
theorem finds_ids_iff (hnames : v.HasDistinctNames) (h : ofValue v = .ok library) :
    (∀ ref t, library.getTest? (.text ref) = .ok (some t) ↔ (ref, t) ∈ library.tests) ∧
    (library.FindsIds ↔ ∀ entry ∈ (listedTests v).members, listedId entry = entry.1) ∧
    (library.FindsIds → ∀ g : Generator, g.snippets = library → ∀ entry ∈ library.tests,
      ∀ bindings, (g.renderReference (.text entry.2.id) bindings).outcome =
        g.inlined entry.2 bindings) := by
  have hkept := keptFrom_of_ok h
  have hkeys := (hasDistinctNames_listedTests hnames).nodup_names
  have hnodup : (library.tests.map (·.1)).Nodup := hkept.keys ▸ hkeys
  refine ⟨fun _ _ => getTest?_text_iff hnodup, hkept.findsIds_iff hkeys, ?_⟩
  rintro hids g rfl entry hentry bindings
  rw [(findsIds_iff_keys hnodup).1 hids entry hentry]
  exact outcome_renderReference_of_mem hnodup hentry bindings

/-- Snippets in the layout of a suite: one has its key for an id, one a number. -/
def groupedSnippets : Value :=
  .object [("groups", .object [("snippets", .object [("tests", .object [
    ("login", .object [("title", .text "Log in")]),
    ("7", .object [("id", .int 7), ("title", .text "Log out")])])])])]

theorem parse_groupedSnippets : Value.parse groupedSnippets.script = .ok groupedSnippets :=
  Value.parse_json JsonLayout.isReadable_script (by decide)

def numbered : Test := { id := "7", title := .text "Log out", disabled := false, commands := [] }

theorem ids_of_groupedSnippets :
    ∃ library, ofValue groupedSnippets = .ok library ∧ library.FindsIds ∧
      library.getTest? (.text "7") = .ok (some numbered) ∧
      ∀ g : Generator, g.snippets = library → ∀ bindings,
        (g.renderReference (.text "7") bindings).outcome = g.inlined numbered bindings := by
  obtain ⟨hfinds, hids, hinlined⟩ :=
    finds_ids_iff (Value.hasDistinctNames_of_parse parse_groupedSnippets) rfl
  have hmem : ("7", numbered) ∈ [("login", { numbered with id := "login", title := .text "Log in" }),
    ("7", numbered)] := List.mem_cons_of_mem _ List.mem_cons_self
  have hlibrary := hids.2 <| by
    intro entry hentry
    rcases List.mem_pair.1 hentry with rfl | rfl
    · rfl
    · rfl
  refine ⟨_, rfl, hlibrary, (hfinds _ _).2 hmem, ?_⟩
  intro g hg
  exact hinlined hlibrary g hg _ hmem

/-- A snippet whose record has an id of its own, under another key. -/
def renamedSnippet : Value :=
  .object [("tests", .object [("k", .object [("id", .text "login"), ("title", .text "Log in")])])]

/-- The snippet is found by its key, which is not its id, and not by its id. -/
theorem renamed_snippet_is_not_found :
    ∃ library t, ofValue renamedSnippet = .ok library ∧ ("k", t) ∈ library.tests ∧
      t.id = "login" ∧ library.getTest? (.text "k") = .ok (some t) ∧
      library.getTest? (.text "login") = .ok none ∧ ¬ library.FindsIds := by
  refine ⟨_, _, rfl, List.mem_cons_self, rfl, rfl, rfl, ?_⟩
  intro h
  exact absurd (h.sound "k" _ rfl) (by decide)

end SnippetLibrary

end SuiteCompiler
