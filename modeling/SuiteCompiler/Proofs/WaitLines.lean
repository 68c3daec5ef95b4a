/-
  SuiteCompiler/Proofs/WaitLines.lean
  ===================================
  The interactive stops as the source tells them.

  A generation returns the ids of its stops; the source waits for each of them, and
  its header lists them.  Both are read from the lines of the source: every wait is
  a line of its own kind (`waitedId?_eq_some_iff`), and the header has one list,
  which is JSON.
-/
import SuiteCompiler.Proofs.Readers
import SuiteCompiler.Proofs.RoundTrip

namespace SuiteCompiler.Jest

open Text Generator

/-- The id that a line waits for, if it is a wait. -/
def waitedId? (line : String) : Option String :=
  between? "    await bs.page.waitForSelector(\x60body[data-suitegen-next=\""
    "\"]\x60, \x7b timeout: 900000 \x7d);" line

/-- The list of interactive ids that a line of the header gives. -/
def idsLiteral? (line : String) : Option String := between? "      INTERACTIVE_IDS = " ";" line

theorem waitedId?_eq_some_iff {line id : String} :
    waitedId? line = some id ↔ line = waitLine id := between?_eq_some_iff

theorem idsLiteral?_idsLine (ids : List String) :
    idsLiteral? (idsLine ids) = some (Value.list (ids.map .text)).script :=
  between?_eq_some_iff.2 rfl

theorem filterMap_waitedId?_waitLines (g : Generator) (cs : List Command) :
    (waitLines g cs).filterMap waitedId? = g.stopIds cs := by
  have hwait : ∀ id, waitedId? (waitLine id) = some id := fun id => waitedId?_eq_some_iff.2 rfl
  simp [waitLines, List.filterMap_map, hwait]

theorem filterMap_idsLiteral?_waitLines (g : Generator) (cs : List Command) :
    (waitLines g cs).filterMap idsLiteral? = [] := by
  have hwait : Skips idsLiteral? ["    await "] := skips_between? _ (by decide) (by decide)
  rw [List.filterMap_eq_nil_iff]
  intro l hl
  obtain ⟨id, -, rfl⟩ := List.mem_map.1 hl
  exact hwait.fill (by decide) _ _

theorem isPortable_texts (ids : List String) : (Value.list (ids.map .text)).isPortable = true := by
  rw [Value.isPortable]
  induction ids with
  | nil => rfl
  | cons id ids ih => simpa [Value.arePortable, Value.isPortable] using ih

/-- **Three accounts of the interactive stops.**  The waits that are read from the lines of a
source are for the ids that the generation returns, in order, and the one list of ids that is read
from its header is, as JSON, the list of the same ids. -/
theorem waits_and_header_agree {g : Generator} (hschema : g.schema = schema)
    (hline : g.IsOneLine) {r : Fragment} (h : g.generate.outcome = .ok r) :
    (lines r.text).filterMap waitedId? = r.interactiveIds ∧
    ∃ literal, (lines r.text).filterMap idsLiteral? = [literal] ∧
      Value.parse literal = .ok (.list (r.interactiveIds.map .text)) := by
  have hcomposer : g.schema.composer.KeepsBodies := hschema ▸ keepsBodies_composer
  have hids : g.stopIds (g.suite.encountered g.snippets) = r.interactiveIds :=
    (interactiveIds_eq_stopIds g hcomposer h).symm
  rw [lines_generate hschema hline h]
  constructor
  · have hframe : Skips waitedId? frameStarts := skips_between? _ (by decide) (by decide)
    have hbody : Skips waitedId? bodyStarts := skips_between? _ (by decide) (by decide)
    have hheader : Skips waitedId? ["      INTERACTIVE_IDS = "] :=
      skips_between? _ (by decide) (by decide)
    have hlist : waitedId? (idsLine r.interactiveIds) = none := hheader.fill (by decide) _ _
    rw [filterMap_listing hframe, filterMap_bodyLines_of_skips hbody hschema hline,
      filterMap_waitedId?_waitLines, hids, hlist]
    rfl
  · have hframe : Skips idsLiteral? frameStarts := skips_between? _ (by decide) (by decide)
    have hbody : Skips idsLiteral? bodyStarts := skips_between? _ (by decide) (by decide)
    refine ⟨(Value.list (r.interactiveIds.map .text)).script, ?_, ?_⟩
    · rw [filterMap_listing hframe, filterMap_bodyLines_of_skips hbody hschema hline,
        filterMap_idsLiteral?_waitLines, hids, idsLiteral?_idsLine]
      rfl
    · exact Value.parse_json JsonLayout.isReadable_script (isPortable_texts _)

/-- A suite with two stops, of which one has an id that JSON has to escape. -/
def reloadingInput : GeneratorInput where
  suite :=
    { title := .text "Shop"
      targets := []
      groups := [("g", {
        id := "g", title := .text "Cart", disabled := false
        tests := [("t", {
          id := "t", title := .text "Reloads", disabled := false
          commands := [.acting "c1" "page" "reload" "g" "t",
            .acting "the \"last\"" "page" "reload" "g" "t"] })] })] }
  schema
  snippets := SnippetLibrary.empty
  options := { interactiveMode := true }

def reloading : Generator := { reloadingInput with selectors := [], selectors_eq := rfl }

theorem stops_of_reloading :
    ∃ r, reloading.generate.outcome = .ok r ∧
      (lines r.text).filterMap waitedId? = ["c1", "the \"last\""] ∧
      ∃ literal, (lines r.text).filterMap idsLiteral? = [literal] ∧
        Value.parse literal = .ok (.list [.text "c1", .text "the \"last\""]) := by
  have hline : reloading.IsOneLine := by
    refine ⟨oneLine_ofList.2 (by decide), List.forall_mem_nil _, ?_⟩
    have hreached : reloading.reached = [.acting "c1" "page" "reload" "g" "t",
      .acting "the \"last\"" "page" "reload" "g" "t"] := rfl
    rw [hreached, List.forall_mem_cons, List.forall_mem_singleton]
    exact ⟨⟨by decide, by decide, by decide, by decide⟩,
      ⟨by decide, by decide, by decide, by decide⟩⟩
  have hids : reloading.generate.outcome.map Fragment.interactiveIds =
      .ok ["c1", "the \"last\""] := rfl
  obtain ⟨r, hr, hrids⟩ := Outcome.map_eq_ok_iff.1 hids
  have hagree := waits_and_header_agree rfl hline hr
  rw [hrids] at hagree
  exact ⟨r, hr, hagree⟩

end SuiteCompiler.Jest
