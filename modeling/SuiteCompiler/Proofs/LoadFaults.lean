/-
  SuiteCompiler/Proofs/LoadFaults.lean
  ====================================
  How loading fails.

  A file is unreadable under its path, or its document is invalid under the path that
  was asked for: these two are the faults that a caller is told of.  Three others pass
  them by.  Each has a cause that can be read off the path or the file: a path or a name
  on it is too long, the text has a run of digits that is too long for a whole number,
  or the document keeps a target under a list or an object.  Without these causes every
  fault is one of the two (`loaders_fail_as_documented`).
-/
import SuiteCompiler.Project.Loading
import SuiteCompiler.Proofs.Encoding
import SuiteCompiler.Proofs.Grammar
import SuiteCompiler.Proofs.Remainders

namespace SuiteCompiler

open Outcome

/-! ### Faults -/

/-- The two kinds of fault of a document at a path that a caller is told of. -/
inductive LoadFault.IsDocumented (path : String) : LoadFault → Prop where
  | unreadable (reason : LoadReason) :
      IsDocumented path (.unreadable (Path.ofString path).text reason)
  | invalid {fault : ModelFault} (h : fault.IsStructural) : IsDocumented path (.invalid path fault)

/-- A name without slashes is a path of one name. -/
theorem Path.ofString_of_notMem {name : String} (h : '/' ∉ name.toList) (hempty : name ≠ "")
    (hdot : name ≠ ".") : ofString name = ⟨"", [name]⟩ := by
  have hroot : rootOf name.toList = "" := by
    unfold rootOf
    split
    · next hcs => simp [hcs] at h
    · next hcs => simp [hcs] at h
    · next hcs => simp [hcs] at h
    · rfl
  rw [ofString, hroot, Text.split, Text.splitAt_of_notMem h]
  simp [hempty, hdot]

namespace Files

variable {files : Files} {path : String}

/-- Neither the path nor a number in its file goes beyond what can be read. -/
structure WithinLimits (files : Files) (path : String) : Prop where
  length : (Path.ofString path).isLong = false
  names : ∀ name ∈ (Path.ofString path).names, Path.isLongName name = false
  digits : ∀ content chars, files.read (Path.ofString path) = .ok content →
    Text.decodeUtf8 content = .ok chars →
      ∀ count, ¬Json.HasLongRun (Text.normalizeNewlines chars) count

/-- The targets of a document, if there is one, can be kept under their ids. -/
def HasScalarIds (files : Files) (path : String) : Prop :=
  ∀ fields, files.loadObject path = .ok fields →
    Targets.HasScalarIds ((Value.object fields).member "targets")

/-! ### Paths -/

theorem exists_longName_of_walk {place : Path} {names : List String}
    (h : files.walk place names = .error .nameTooLong) :
    ∃ name ∈ names, Path.isLongName name = true := by
  induction names generalizing place with
  | nil => cases h
  | cons name names ih =>
    rw [walk] at h
    split at h
    · cases h
    · split at h
      · next hlong => exact ⟨name, List.mem_cons_self, hlong⟩
      · obtain ⟨name', hname', hlong⟩ := ih h
        exact ⟨name', List.mem_cons_of_mem name hname', hlong⟩

/-- A path that is too long to be followed is long, or a name on it is. -/
theorem isLong_of_read {p : Path} (h : files.read p = .error .nameTooLong) :
    p.isLong = true ∨ ∃ name ∈ p.names, Path.isLongName name = true := by
  unfold read at h
  cases hresolve : files.resolve p with
  | ok place =>
    rw [hresolve, ok_bind] at h
    split at h <;> cases h
  | error fault =>
    rw [hresolve, error_bind] at h
    obtain rfl := Except.error.inj h
    unfold resolve at hresolve
    split at hresolve
    · cases hresolve
    · split at hresolve
      · next hlong => exact Or.inl hlong
      · exact Or.inr (exists_longName_of_walk hresolve)

/-- A name that is too long is reported for itself, whether there is such a file or not. -/
theorem loadObject_of_isLongName (files : Files) {name : String} (h : '/' ∉ name.toList)
    (hnul : Path.hasNul name = false) (hlong : Path.isLongName name = true) :
    files.loadObject name = .error (.nameTooLong name) := by
  have hempty : name ≠ "" := by
    rintro rfl
    exact absurd hlong (by decide)
  have hdot : name ≠ "." := by
    rintro rfl
    exact absurd hlong (by decide)
  have hpath := Path.ofString_of_notMem h hempty hdot
  have htext : (⟨"", [name]⟩ : Path).text = name := by simp [Path.text, hempty]
  have hread : files.read ⟨"", [name]⟩ = .error .nameTooLong := by
    have hresolve : files.resolve ⟨"", [name]⟩ = .error .nameTooLong := by
      simp [resolve, hnul, walk, isDirectory, hlong]
    rw [read, hresolve]
    rfl
  simp only [loadObject, hpath, hread, htext]

/-! ### Objects and documents -/

theorem parseObject_error {content : List UInt8} {fault : LoadFault}
    (h : parseObject path content = .error fault) :
    (∃ reason, fault = .unreadable path reason) ∨
      ∃ chars count, Text.decodeUtf8 content = .ok chars ∧
        Json.HasLongRun (Text.normalizeNewlines chars) count := by
  unfold parseObject at h
  split at h
  · exact Or.inl ⟨_, (Except.error.inj h).symm⟩
  · next chars hchars =>
    split at h
    · exact Or.inl ⟨_, (Except.error.inj h).symm⟩
    · next count hcount => exact Or.inr ⟨chars, count, hchars, Json.hasLongRun_of_parseChars hcount⟩
    · cases h
    · exact Or.inl ⟨_, (Except.error.inj h).symm⟩

theorem WithinLimits.unreadable_of_loadObject (h : files.WithinLimits path) {fault : LoadFault}
    (hload : files.loadObject path = .error fault) :
    ∃ reason, fault = .unreadable (Path.ofString path).text reason := by
  unfold loadObject at hload
  dsimp only at hload
  split at hload
  · exact ⟨_, (Except.error.inj hload).symm⟩
  · next hlong =>
    rcases isLong_of_read hlong with hpath | ⟨name, hname, hlong⟩
    · rw [h.length] at hpath
      contradiction
    · rw [h.names name hname] at hlong
      contradiction
  · next content hread =>
    rcases parseObject_error hload with hreason | ⟨chars, count, hchars, hrun⟩
    · exact hreason
    · exact absurd hrun (h.digits content chars hread hchars count)

theorem isDocumented_of_accept {α : Type} {outcome : Except ModelFault α} {fault : LoadFault}
    (hstructural : ∀ modelFault, outcome = .error modelFault → modelFault.IsStructural)
    (h : accept path outcome = .error fault) : fault.IsDocumented path := by
  unfold accept at h
  split at h
  · cases h
  · exact absurd (hstructural _ rfl) id
  · next modelFault _ =>
    obtain rfl := Except.error.inj h
    exact .invalid (hstructural modelFault rfl)

/-- A reader of documents that refuses by faults of structure alone fails as documented. -/
theorem WithinLimits.isDocumented_of_load {α : Type} (h : files.WithinLimits path)
    (hids : files.HasScalarIds path) {ofValue : Value → Except ModelFault α}
    (hstructural : ∀ v : Value, Targets.HasScalarIds (v.member "targets") →
      ∀ modelFault, ofValue v = .error modelFault → modelFault.IsStructural) {fault : LoadFault}
    (hload : (files.loadObject path >>= fun fields => accept path (ofValue (.object fields))) =
      .error fault) : fault.IsDocumented path := by
  cases hobject : files.loadObject path with
  | error objectFault =>
    rw [hobject, error_bind] at hload
    obtain rfl := Except.error.inj hload
    obtain ⟨reason, rfl⟩ := h.unreadable_of_loadObject hobject
    exact .unreadable reason
  | ok fields =>
    rw [hobject, ok_bind] at hload
    exact isDocumented_of_accept (hstructural _ (hids fields hobject)) hload

/-- **How loading fails.**  If a path and the numbers in its file are within the limits, an object
is loaded or the file is unreadable under the path.  If the targets of the document can be kept
too, a suite or a library is loaded, or the file is unreadable, or the document is invalid by its
structure. -/
theorem loaders_fail_as_documented (h : files.WithinLimits path) :
    (∀ fault, files.loadObject path = .error fault →
        ∃ reason, fault = .unreadable (Path.ofString path).text reason) ∧
      (files.HasScalarIds path →
        (∀ fault, files.loadSuite path = .error fault → fault.IsDocumented path) ∧
          ∀ fault, files.loadSnippets (some path) = .error fault → fault.IsDocumented path) ∧
      files.loadSnippets none = .ok .empty := by
  refine ⟨fun fault => h.unreadable_of_loadObject, fun hids => ⟨?_, ?_⟩, rfl⟩
  · intro fault hload
    refine h.isDocumented_of_load hids (fun v hv modelFault hfault => ?_) hload
    exact (hfault ▸ Suite.reads_ofValue hv).structural_of_error
  · intro fault hload
    refine h.isDocumented_of_load hids (fun v hv modelFault hfault => ?_) hload
    exact (hfault ▸ SnippetLibrary.reads_ofValue hv).structural_of_error

/-! ### Files of one text -/

/-- A directory with one file, of a text. -/
def single (name text : String) : Files where
  contents := [(⟨"", [name]⟩, text.toUTF8.toList)]

/-- A suite with groups in a list. -/
def listedGroups : String := "\x7b\"targets\": \x7b\"BUY\": \x7b\"id\": 12\x7d\x7d, \"groups\": []\x7d"

/-- A text that is shorter than any number that is too long is within the limits. -/
theorem withinLimits_single {name text : String}
    (hread : (single name text).read (Path.ofString name) = .ok text.toUTF8.toList)
    (hlong : (Path.ofString name).isLong = false)
    (hnames : ∀ part ∈ (Path.ofString name).names, Path.isLongName part = false)
    (hreturn : '\r' ∉ text.toList) (hlength : text.toList.length ≤ Number.digitLimit) :
    (single name text).WithinLimits name where
  length := hlong
  names := hnames
  digits := by
    intro content chars hread' hchars count hrun
    obtain rfl := Except.ok.inj (hread.symm.trans hread')
    obtain rfl := Except.ok.inj ((Text.decodeUtf8_toUTF8 _).symm.trans hchars)
    rw [Text.normalizeNewlines_of_notMem hreturn] at hrun
    exact absurd hrun.lt_length (by omega)

/-- A text without backslashes has no escapes, and so no halves of pairs. -/
theorem hasHalves_of_notMem {cs : List Char} (h : '\\' ∉ cs) : Json.hasHalves cs = false := by
  unfold Json.hasHalves
  fun_induction Json.escapedUnits cs with
  | case1 a b c d rest ih => exact absurd List.mem_cons_self h
  | case2 c rest hunit ih => exact absurd List.mem_cons_self h
  | case3 c rest hescape hslash ih => exact ih fun hmem => h (List.mem_cons_of_mem c hmem)
  | case4 => rfl

theorem hasHalves_single {name text : String}
    (hread : (single name text).read (Path.ofString name) = .ok text.toUTF8.toList)
    (hslash : '\\' ∉ text.toList) : (single name text).hasHalves name = false := by
  rw [hasHalves, hread]
  dsimp only
  rw [Text.decodeUtf8_toUTF8]
  exact hasHalves_of_notMem hslash

theorem withinLimits_listedGroups : (single "s.json" listedGroups).WithinLimits "s.json" :=
  withinLimits_single (by decide +kernel) (by decide +kernel) (by decide +kernel)
    (by decide +kernel) (by decide +kernel)

theorem hasScalarIds_listedGroups : (single "s.json" listedGroups).HasScalarIds "s.json" := by
  intro fields hfields
  have hload : (single "s.json" listedGroups).loadObject "s.json" =
      .ok [("targets", .object [("BUY", .object [("id", .int 12)])]), ("groups", .list [])] := by
    decide +kernel
  obtain rfl := Except.ok.inj (hload.symm.trans hfields)
  intro entry hentry
  obtain rfl := List.mem_singleton.1 hentry
  exact ⟨fun _ => trivial, nofun⟩

/-- The document is no suite, and is reported as one that is invalid. -/
theorem listedGroups_is_invalid :
    (single "s.json" listedGroups).loadSuite "s.json" =
        .error (.invalid "s.json" (.notAnObject "suite groups" .list)) ∧
      (LoadFault.invalid "s.json" (.notAnObject "suite groups" .list)).IsDocumented "s.json" := by
  have hload : (single "s.json" listedGroups).loadSuite "s.json" =
      .error (.invalid "s.json" (.notAnObject "suite groups" .list)) := by decide +kernel
  obtain ⟨-, hdocuments, -⟩ := loaders_fail_as_documented withinLimits_listedGroups
  exact ⟨hload, (hdocuments hasScalarIds_listedGroups).1 _ hload⟩

/-- A number of too many digits is all there is in the file. -/
theorem loadObject_ones {count : Nat} (h : Number.digitLimit < count) :
    (single "n.json" (String.ofList (List.replicate count '1'))).loadObject "n.json" =
      .error (.tooManyDigits count) := by
  have hload : ∀ text, (single "n.json" text).loadObject "n.json" =
      parseObject "n.json" text.toUTF8.toList := fun text => rfl
  have hreturn : '\r' ∉ List.replicate count '1' := fun hmem =>
    absurd (List.eq_of_mem_replicate hmem) (by decide)
  rw [hload, parseObject, Text.decodeUtf8_toUTF8, String.toList_ofList]
  simp only [Text.normalizeNewlines_of_notMem hreturn, Json.parseChars_ones h]

/-- A target that is kept under a list, a name of 256 bytes and a number of 4301 digits are not
reported under the path. -/
theorem undocumented_faults_of_loading :
    (single "s.json" "\x7b\"targets\": \x7b\"a\": \x7b\"id\": [1]\x7d\x7d\x7d").loadSuite "s.json" =
        .error (.unhashable .list) ∧
      (single "s.json" "").loadObject (String.ofList (List.replicate 256 'a')) =
        .error (.nameTooLong (String.ofList (List.replicate 256 'a'))) ∧
      (single "n.json" (String.ofList (List.replicate 4301 '1'))).loadObject "n.json" =
        .error (.tooManyDigits 4301) := by
  have hother : ∀ c : Char, c ≠ 'a' → c ∉ (String.ofList (List.replicate 256 'a')).toList := by
    intro c hc hmem
    rw [String.toList_ofList] at hmem
    exact hc (List.eq_of_mem_replicate hmem)
  have hnul : Path.hasNul (String.ofList (List.replicate 256 'a')) = false := by
    rw [Path.hasNul, ← Bool.not_eq_true, List.contains_iff_mem]
    exact hother _ (by decide)
  refine ⟨by decide +kernel, ?_, loadObject_ones (by decide)⟩
  exact loadObject_of_isLongName _ (hother '/' (by decide)) hnul (by decide +kernel)

end Files

end SuiteCompiler
