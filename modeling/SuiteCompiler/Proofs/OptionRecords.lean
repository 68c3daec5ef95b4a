/-
  SuiteCompiler/Proofs/OptionRecords.lean
  =======================================
  Options as records, and records as options.

  A record of options gives the known settings by their names, and every other field goes
  along as it is.  Written back, the known settings come first, then the other fields are
  set one after another, so one by the name of a known setting would overwrite it.  The
  options of a document have no such field (`not_mem_names_of_mem_extra`): their record is
  the known settings and behind them the rest of the document (`toFields_ofFields`).  So
  it tells all of the document but how its two flags were given (`survives_record_form`).
-/
import SuiteCompiler.Proofs.DistinctNames
import SuiteCompiler.Proofs.RoundTrip
import SuiteCompiler.Suite.Options

namespace SuiteCompiler

open Outcome

theorem Fields.get?_graph (f : String → Value) (names : List String) (name : String) :
    Fields.get? (names.map fun n => (n, f n)) name =
      if name ∈ names then some (f name) else none := by
  unfold Fields.get?
  induction names with
  | nil => simp
  | cons n names ih =>
    by_cases hn : name = n
    · simp [hn]
    · have hb : (name == n) = false := by simpa using hn
      simp [List.lookup_cons, hb, hn, ih]

theorem Fields.get?_filter (keep : String → Bool) {name : String} (h : keep name = true)
    (fields : Fields) :
    Fields.get? (fields.filter fun field => keep field.1) name = fields.get? name := by
  unfold Fields.get?
  induction fields with
  | nil => rfl
  | cons field fields ih =>
    obtain ⟨n, v⟩ := field
    by_cases hn : name = n
    · subst hn
      simp [h]
    · -- whether the field is kept or not, the look-up goes on behind it
      have hb : (name == n) = false := by simpa using hn
      cases hk : keep n <;> simp [List.lookup_cons, hk, hb, ih]

namespace Options

/-! ### The fields of a document -/

/-- What options keep of a field: of the two flags whether they count as given, of every other
field the value. -/
def kept (name : String) (value : Value) : Value :=
  if name = "trace" ∨ name = "interactiveMode" then .bool value.isTruthy else value

theorem kept_kept (name : String) (value : Value) : kept name (kept name value) = kept name value := by
  unfold kept
  split <;> rfl

theorem kept_of_not_mem_names {name : String} (h : name ∉ names) (value : Value) :
    kept name value = value := by
  refine if_neg fun hflag => h ?_
  rcases hflag with rfl | rfl <;> decide

/-- What options hold under a known name: what is kept of the field, or of false if there is none. -/
def setting (d : Fields) (name : String) : Value :=
  kept name ((d.get? name).getD (.bool false))

/-- A document gives the known settings by their names. -/
theorem known_ofFields (d : Fields) :
    (ofFields d).known = names.map fun name => (name, setting d name) := by
  have hflag : ∀ name, name = "trace" ∨ name = "interactiveMode" →
      Value.bool (d.get name).isTruthy = setting d name := by
    intro name hname
    unfold setting kept Fields.get Fields.get?
    rw [if_pos hname]
    cases List.lookup name d <;> rfl
  have hvalue : ∀ name, ¬(name = "trace" ∨ name = "interactiveMode") →
      (d.get? name).getD (.bool false) = setting d name :=
    fun name hname => (if_neg hname).symm
  unfold known names ofFields
  simp only [List.map_cons, List.map_nil]
  rw [hflag "trace" (by decide), hflag "interactiveMode" (by decide),
    hvalue "updateSnapshot" (by decide), hvalue "incognito" (by decide),
    hvalue "ignoreHTTPSErrors" (by decide)]

theorem not_mem_names_of_mem_extra {d : Fields} {field : String × Value}
    (h : field ∈ (ofFields d).extra) : field.1 ∉ names := by
  simpa [ofFields] using (List.mem_filter.1 h).2

/-- The other fields are those of the document. -/
theorem get?_extra_ofFields (d : Fields) {name : String} (h : name ∉ names) :
    (ofFields d).extra.get? name = d.get? name :=
  Fields.get?_filter (fun n => !names.contains n) (by simpa using h) d

/-- Options are their known settings and the other fields. -/
theorem eq_of_known {o o' : Options} (hknown : o.known = o'.known) (hextra : o.extra = o'.extra) :
    o = o' := by
  cases o
  cases o'
  simp_all [known]

/-! ### The record of a document -/

theorem names_known (o : Options) : o.known.map (·.1) = names := rfl

theorem nodup_names_known_append {d : Fields} (h : (d.map (·.1)).Nodup) :
    (((ofFields d).known ++ (ofFields d).extra).map (·.1)).Nodup := by
  rw [List.map_append, List.nodup_append, names_known]
  refine ⟨by decide, h.sublist (List.Sublist.map _ List.filter_sublist), ?_⟩
  rintro name hname other hother rfl
  obtain ⟨field, hfield, rfl⟩ := List.mem_map.1 hother
  exact not_mem_names_of_mem_extra hfield hname

/-- No other field overwrites a known setting, so all of them come behind. -/
theorem toFields_ofFields {d : Fields} (h : (d.map (·.1)).Nodup) :
    (ofFields d).toFields = (ofFields d).known ++ (ofFields d).extra :=
  Fields.setAll_of_nodup (nodup_names_known_append h)

theorem get?_toFields_ofFields {d : Fields} (h : (d.map (·.1)).Nodup) (name : String) :
    (ofFields d).toFields.get? name =
      if name ∈ names then some (setting d name) else d.get? name := by
  have happend : (ofFields d).toFields.get? name =
      ((ofFields d).known.get? name).or ((ofFields d).extra.get? name) := by
    rw [toFields_ofFields h]
    exact List.lookup_append
  rw [happend, known_ofFields, Fields.get?_graph]
  by_cases hname : name ∈ names
  · rw [if_pos hname, if_pos hname, Option.some_or]
  · rw [if_neg hname, if_neg hname, Option.none_or, get?_extra_ofFields d hname]

/-- The record of the options of a document stands for the same options. -/
theorem ofFields_toFields_ofFields {d : Fields} (h : (d.map (·.1)).Nodup) :
    ofFields (ofFields d).toFields = ofFields d := by
  refine eq_of_known ?_ ?_
  · rw [known_ofFields, known_ofFields]
    refine List.map_congr_left fun name hname => ?_
    have hsetting : setting (ofFields d).toFields name = kept name (setting d name) := by
      rw [setting, get?_toFields_ofFields h, if_pos hname, Option.getD_some]
    rw [hsetting, setting, kept_kept]
  · have hknown : (ofFields d).known.filter (fun field => !names.contains field.1) = [] := rfl
    have hextra : (ofFields d).extra.filter (fun field => !names.contains field.1) =
        (ofFields d).extra :=
      List.filter_eq_self.2 fun field hfield => by
        simpa using not_mem_names_of_mem_extra hfield
    rw [toFields_ofFields h]
    exact (List.filter_append ..).trans (by rw [hknown, hextra, List.nil_append])

/-- **Options survive their record form.**  The options of a document are read back from their
record as they were.  The record agrees with the document on every field of the document, but that
the two flags are replaced by whether they count as given; of the names that the document does not
give it has the known ones, with the value false.  The known names come first, in their order, then
the others of the document in theirs, and none stands twice.  So the record of the options that are
read from a record is that record again. -/
theorem survives_record_form {v : Value} {o : Options} (h : ofValue v = .ok o)
    (hnames : (v.members.map (·.1)).Nodup) :
    ofValue (.object o.toFields) = .ok o ∧
    (∀ name value, v.members.get? name = some value → o.toFields.get? name =
      some (if name = "trace" ∨ name = "interactiveMode" then .bool value.isTruthy else value)) ∧
    (∀ name, v.members.get? name = none → o.toFields.get? name =
      if name ∈ names then some (.bool false) else none) ∧
    o.toFields.map (·.1) = names ++ (v.members.map (·.1)).filter (· ∉ names) ∧
    (o.toFields.map (·.1)).Nodup ∧
    ∀ o', ofValue (.object o.toFields) = .ok o' → o'.toFields = o.toFields := by
  obtain rfl : ofFields v.members = o := by
    obtain ⟨fields, hfields, rfl⟩ := bind_pure_eq_ok_iff.1 h
    exact congrArg ofFields (hfields ▸ v.reads_record "options").kept_of_ok.symm
  have hback : ofValue (.object (ofFields v.members).toFields) = .ok (ofFields v.members) :=
    congrArg Except.ok (ofFields_toFields_ofFields hnames)
  have hget := get?_toFields_ofFields hnames
  refine ⟨hback, ?_, ?_, ?_, ?_, ?_⟩
  · intro name value hvalue
    rw [hget, setting, hvalue, Option.getD_some]
    by_cases hname : name ∈ names
    · rw [if_pos hname]
      rfl
    · rw [if_neg hname]
      exact congrArg some (kept_of_not_mem_names hname value).symm
  · intro name hnone
    have hfalse : setting v.members name = .bool false := by
      unfold setting kept
      rw [hnone]
      split <;> rfl
    rw [hget, hfalse, hnone]
  · have hextra : (ofFields v.members).extra.map (·.1) =
        (v.members.map (·.1)).filter (· ∉ names) := by
      rw [List.filter_map]
      refine congrArg _ (List.filter_congr fun field _ => ?_)
      simp
    rw [toFields_ofFields hnames, List.map_append, names_known, hextra]
  · rw [toFields_ofFields hnames]
    exact nodup_names_known_append hnames
  · intro o' ho'
    obtain rfl := Except.ok.inj (hback.symm.trans ho')
    rfl

/-- The document of a run, with a flag that is no truth value, a field by a name that only looks
like a known one, and two known names left out. -/
def recordedDocument : Value :=
  .object [("headless", .bool false), ("trace", .text "yes"), ("interactive_mode", .int 1),
    ("ignoreHTTPSErrors", .text "all"), ("interactiveMode", .list [])]

def recordedOptions : Options where
  trace := true
  ignoreHttpsErrors := .text "all"
  extra := [("headless", .bool false), ("interactive_mode", .int 1)]

theorem record_of_recordedOptions :
    ofValue recordedDocument = .ok recordedOptions ∧
    (recordedDocument.members.map (·.1)).Nodup ∧
    recordedOptions.toFields.map (·.1) = ["trace", "interactiveMode", "updateSnapshot", "incognito",
      "ignoreHTTPSErrors", "headless", "interactive_mode"] ∧
    ofValue (.object recordedOptions.toFields) = .ok recordedOptions := by
  have hread : ofValue recordedDocument = .ok recordedOptions := rfl
  have hnames : (recordedDocument.members.map (·.1)).Nodup := by decide
  obtain ⟨hback, -, -, horder, -, -⟩ := survives_record_form hread hnames
  exact ⟨hread, hnames, horder, hback⟩

end Options

end SuiteCompiler
