/-
  SuiteCompiler/Proofs/Delivery.lean
  ==================================
  A run delivers the whole source or nothing.

  Arguments, environment and files set up a generator, if they can all be used, and it
  gives a source, if everything can be rendered (`Yields`).  A run is measured by that.
  Where there is no source all that it does is quiet (`generate_of_not_yields`), so
  standard output stays empty and the files stay as they are.  Where there is one, a
  single step that is not quiet delivers it (`generate_of_yields`): to standard output,
  or to the file at the path that is asked for, which then holds the source and is the
  only file that has changed.

  All this takes documents without halves of pairs in their texts.  A source with a half
  in it cannot be encoded, and its file is left empty (`loses_source_of_half`).
-/
import SuiteCompiler.Proofs.ExitStatus
import SuiteCompiler.Proofs.Lines
import SuiteCompiler.Proofs.Writing

namespace SuiteCompiler

open Outcome

/-! ### Paths on the command line -/

/-- The names on the way of a path have only characters of its text. -/
theorem Path.hasNul_of_mem_names {text name : String} (h : hasNul text = false)
    (hname : name ∈ (ofString text).names) : hasNul name = false := by
  obtain ⟨piece, hpiece, rfl⟩ := List.mem_map.1 (List.mem_filter.1 hname).1
  rw [hasNul, ← Bool.not_eq_true, List.contains_iff_mem, String.toList_ofList] at *
  exact fun hnul => h (Text.mem_of_mem_splitAt hpiece hnul)

namespace Invocation

variable {args : List String} {ga : GenerateArguments}

/-- The arguments ask for a generation, with a path that something can have or not. -/
def IsGeneration : Invocation → Prop
  | .generate _ | .nulInPath => True
  | .help | .version | .methods | .misuse => False

theorem hasNul_output_of_ofGenerate (h : ofGenerate args = .generate ga) {path : String}
    (hpath : ga.output = some path) : Path.hasNul path = false := by
  unfold ofGenerate at h
  split at h
  · cases h
  next parsed _ =>
    split at h
    · cases h
    split at h
    · cases h
    next hnul =>
      split at h
      · cases h
      next suitePath more _ =>
        split at h
        · cases h
        split at h
        · cases h
        obtain rfl := Invocation.generate.inj h
        have hmem : path ∈ pathOptions.filterMap parsed.value? :=
          List.mem_filterMap.2 ⟨"output", by decide, hpath⟩
        rw [Bool.not_eq_true, List.any_eq_false] at hnul
        simpa using hnul path hmem

theorem ofOption?_ne_generate {parsed : ParsedArguments} :
    ofOption? parsed ≠ some (.generate ga) := by
  unfold ofOption?
  split
  · nofun
  · split <;> nofun

theorem ofUnknown_ne_generate : ofUnknown args ≠ .generate ga := by
  unfold ofUnknown
  intro h
  cases hoption : (Arguments.parse programOptions false args).bind ofOption? with
  | none =>
    rw [hoption] at h
    cases h
  | some invocation =>
    obtain ⟨parsed, -, hparsed⟩ := Option.bind_eq_some_iff.1 hoption
    rw [hoption] at h
    obtain rfl : invocation = .generate ga := h
    exact ofOption?_ne_generate hparsed

/-- The path of the output can be one that something has. -/
theorem hasNul_output (h : ofArguments args = .generate ga) {path : String}
    (hpath : ga.output = some path) : Path.hasNul path = false := by
  unfold ofArguments at h
  split at h
  · cases h
  next parsed _ =>
    split at h
    next invocation _ hoption =>
      subst h
      exact absurd hoption ofOption?_ne_generate
    · cases h
    next command rest _ _ =>
      split at h
      · exact hasNul_output_of_ofGenerate h hpath
      split at h
      · unfold ofMethods at h
        split at h
        · cases h
        split at h
        · cases h
        split at h <;> cases h
      · exact absurd h ofUnknown_ne_generate

end Invocation

namespace CommandLine

variable {files : Files} {env : Environment} {args : List String} {ga : GenerateArguments}
  {source : Fragment}

/-! ### Runs with a source and without one -/

/-- The arguments ask for a generation, and the generator that is set up for it gives a source. -/
def Yields (files : Files) (env : Environment) (args : List String) (ga : GenerateArguments)
    (source : Fragment) : Prop :=
  Invocation.ofArguments args = .generate ga ∧
    ∃ g, SetsUp files env ga g ∧ g.generate.outcome = .ok source

theorem run?_of_generate (h : Invocation.ofArguments args = .generate ga) :
    run? files env args = some (generate files env ga) := by
  unfold run?
  rw [h]

/-- Where there is a source it is delivered, and nothing but records comes before. -/
theorem generate_of_yields (hwhole : readsHalves files ga = false)
    (h : Yields files env args ga source) :
    ∃ records : List LogRecord,
      generate files env ga = ⟨records.map .log ++ deliver ga source, .exit 0⟩ := by
  obtain ⟨-, g, hsets, hsource⟩ := h
  obtain ⟨config, -, -, hsucceeds⟩ := generate_of_setsUp hsets
  rw [hsucceeds source hsource, hwhole, finish_of_whole]
  exact ⟨_, rfl⟩

theorem ending_loadFailed_ne (fault : LoadFault) : (loadFailed fault).ending ≠ .exit 0 := by
  cases fault <;> simp [loadFailed, stop]

/-- Where there is no source a run is quiet, and it does not end well. -/
theorem generate_of_not_yields (hargs : Invocation.ofArguments args = .generate ga)
    (h : ¬∃ source, Yields files env args ga source) :
    AllQuiet (generate files env ga).steps ∧ (generate files env ga).ending ≠ .exit 0 := by
  unfold generate
  split
  · exact ⟨quiet_stop _ _, by simp [stop]⟩
  next config hconfig =>
    split
    · exact ⟨quiet_stop _ _, by simp [stop]⟩
    next runner hrunner =>
      split
      · exact ⟨quiet_loadFailed _, ending_loadFailed_ne _⟩
      next documents hload =>
        split
        · exact ⟨List.forall_mem_nil _, nofun⟩
        next g hg =>
          dsimp only
          split
          · exact ⟨(quiet_shownRecords _ _ _).append (quiet_failureMessages _), by simp⟩
          next source hsource =>
            refine absurd ⟨source, hargs, g, ?_, hsource⟩ h
            exact ⟨_, ⟨config, runner, documents, hconfig, hrunner, hload, rfl⟩, hg⟩

/-! ### What appears -/

/-- A source is on standard output or in the file that is asked for, and nothing else is anywhere.
Standard output shows a source that has no escape characters as it is. -/
structure Delivers (files : Files) (ga : GenerateArguments) (source : Fragment)
    (t : Transcript) : Prop where
  toOutput : ga.output = none → t.files = files ∧
    t.stdout = Console.dropSequences source.text ∧
    ('\x1b' ∉ source.text.toList → t.stdout = source.text)
  toFile : ∀ path, ga.output = some path → files.IsWritable (Path.ofString path) →
    t.stdout = "" ∧ files.Receives t.files (Path.ofString path) source.text.toUTF8.toList

theorem delivers_perform {after : List Step} (hafter : AllQuiet after)
    (hnul : ∀ path, ga.output = some path → Path.hasNul path = false) (t : Transcript)
    (hempty : t.stdout = "") :
    Delivers t.files ga source (t.perform (delivery ga source :: after)) := by
  constructor
  · intro houtput
    rw [delivery, houtput, Transcript.perform]
    obtain ⟨hstdout, hfiles⟩ := Transcript.perform_of_quiet hafter
      { t with stdout := t.stdout ++ Console.dropSequences source.text }
    have hshown := hstdout.trans (by rw [hempty, String.empty_append])
    refine ⟨hfiles, hshown, fun hescape => hshown.trans ?_⟩
    exact Console.dropSequences_of_notMem hescape
  · intro path houtput hwritable
    obtain ⟨⟨written, place⟩, hwrite⟩ := hwritable.exists_write source.text.toUTF8.toList
    rw [delivery, houtput, Transcript.perform, hwrite]
    obtain ⟨hstdout, hfiles⟩ := Transcript.perform_of_quiet hafter { t with files := written }
    refine ⟨hstdout.trans hempty, ?_⟩
    rw [hfiles]
    exact .of_write (fun _ => Path.hasNul_of_mem_names (hnul path houtput)) hwrite

theorem delivers_of_yields (screen : Console.Screen) (hwhole : readsHalves files ga = false)
    (h : Yields files env args ga source) :
    Delivers files ga source ((generate files env ga).perform screen files) := by
  obtain ⟨records, hgenerate⟩ := generate_of_yields hwhole h
  obtain ⟨after, hafter, hdeliver⟩ := deliver_eq ga source
  rw [hgenerate, hdeliver, Report.perform, Transcript.perform_records]
  exact delivers_perform hafter (fun path => Invocation.hasNul_output h.1)
    { screen, stderr := _, files, ending := .exit 0 } rfl

/-- **The whole source or nothing.**  Arguments ask for a generation, and its documents have no
halves of pairs in their texts.  The run ends well, as far as the generation goes, if and only if
there is a source.  If there is none, nothing is on standard output and the files are as they were.
If there is one, it is delivered: to standard output, with the files as they were, or to the file
that is asked for if that can be written, with nothing on standard output and all other files as
they were. -/
theorem delivers_source_or_nothing (screen : Console.Screen)
    (hargs : (Invocation.ofArguments args).IsGeneration)
    (hwhole : ∀ ga, Invocation.ofArguments args = .generate ga → readsHalves files ga = false) :
    ∃ report, run? files env args = some report ∧
      (report.ending = .exit 0 ↔ ∃ ga source, Yields files env args ga source) ∧
      ((¬∃ ga source, Yields files env args ga source) →
        (report.perform screen files).stdout = "" ∧
          (report.perform screen files).files = files) ∧
      ∀ ga source, Yields files env args ga source →
        Delivers files ga source (report.perform screen files) := by
  cases hinvocation : Invocation.ofArguments args with
  | help => simp [hinvocation, Invocation.IsGeneration] at hargs
  | version => simp [hinvocation, Invocation.IsGeneration] at hargs
  | methods => simp [hinvocation, Invocation.IsGeneration] at hargs
  | misuse => simp [hinvocation, Invocation.IsGeneration] at hargs
  | nulInPath =>
    have hnone : ∀ ga source, ¬Yields files env args ga source := by
      rintro ga source ⟨hga, -⟩
      rw [hinvocation] at hga
      cases hga
    refine ⟨⟨[], .crash .nulInPath⟩, by simp [run?, hinvocation], ?_, fun _ => ⟨rfl, rfl⟩, ?_⟩
    · simp [hnone]
    · intro ga source h
      exact absurd h (hnone ga source)
  | generate ga =>
    have hunique : ∀ ga' source, Yields files env args ga' source → ga' = ga := by
      rintro ga' source ⟨hga, -⟩
      exact Invocation.generate.inj (hga.symm.trans hinvocation)
    refine ⟨generate files env ga, run?_of_generate hinvocation, ?_, ?_, ?_⟩
    · constructor
      · intro hending
        by_contra hnot
        refine (generate_of_not_yields hinvocation ?_).2 hending
        exact fun ⟨source, h⟩ => hnot ⟨ga, source, h⟩
      · rintro ⟨ga', source, h⟩
        obtain rfl := hunique ga' source h
        obtain ⟨records, hgenerate⟩ := generate_of_yields (hwhole _ hinvocation) h
        rw [hgenerate]
    · intro hnot
      have hquiet := (generate_of_not_yields hinvocation fun ⟨source, h⟩ => hnot ⟨ga, source, h⟩).1
      exact Transcript.perform_of_quiet hquiet _
    · intro ga' source h
      obtain rfl := hunique ga' source h
      exact delivers_of_yields screen (hwhole _ hinvocation) h

/-! ### Runs on one file -/

/-- What the generator gives that is set up from the inputs of a run. -/
def outcome? (files : Files) (env : Environment) (ga : GenerateArguments) :
    Option (Except RenderFailure Fragment) :=
  match Configuration.ofEnvironment env with
  | .error _ => none
  | .ok config =>
    match selectRunner config ga.runner with
    | .error _ => none
    | .ok runner =>
      match loadDocuments files ga with
      | .error _ => none
      | .ok documents =>
        match Generator.ofInput (generatorInput config runner ga documents) with
        | .error _ => none
        | .ok g => some g.generate.outcome

theorem exists_setsUp_of_outcome? {outcome : Except RenderFailure Fragment}
    (h : outcome? files env ga = some outcome) :
    ∃ g, SetsUp files env ga g ∧ g.generate.outcome = outcome := by
  unfold outcome? at h
  split at h
  · cases h
  next config hconfig =>
    split at h
    · cases h
    next runner hrunner =>
      split at h
      · cases h
      next documents hload =>
        split at h
        · cases h
        next g hg =>
          obtain rfl := Option.some.inj h
          exact ⟨g, ⟨_, ⟨config, runner, documents, hconfig, hrunner, hload, rfl⟩, hg⟩, rfl⟩

/-- A suite without groups. -/
def emptySuite : Files := .single "s.json" "\x7b\x7d"

/-- The source of the suite is written to a file in a directory that was not there. -/
theorem emptySuite_is_delivered :
    (Invocation.ofArguments ["generate", "s.json", "--output", "out/s.js"]).IsGeneration ∧
      ∃ report ga source,
        run? emptySuite [] ["generate", "s.json", "--output", "out/s.js"] = some report ∧
        Yields emptySuite [] ["generate", "s.json", "--output", "out/s.js"] ga source ∧
        (report.perform .endless emptySuite).stdout = "" ∧
        emptySuite.Receives (report.perform .endless emptySuite).files ⟨"", ["out", "s.js"]⟩
          source.text.toUTF8.toList := by
  have hinvocation : Invocation.ofArguments ["generate", "s.json", "--output", "out/s.js"] =
      .generate { suitePath := "s.json", output := some "out/s.js" } := by decide
  have hargs :
      (Invocation.ofArguments ["generate", "s.json", "--output", "out/s.js"]).IsGeneration := by
    rw [hinvocation]
    trivial
  have hwhole : ∀ ga, Invocation.ofArguments ["generate", "s.json", "--output", "out/s.js"] =
      .generate ga → readsHalves emptySuite ga = false := by
    intro ga hga
    obtain rfl := Invocation.generate.inj (hinvocation.symm.trans hga)
    exact readsHalves_single (by decide +kernel) rfl
  have hwell : (run? emptySuite [] ["generate", "s.json", "--output", "out/s.js"]).map
      Report.ending = some (.exit 0) := by decide +kernel
  obtain ⟨report, hrun, hending, -, hdelivers⟩ :=
    @delivers_source_or_nothing emptySuite [] ["generate", "s.json", "--output", "out/s.js"]
      .endless hargs hwhole
  rw [hrun] at hwell
  obtain ⟨ga, source, hyields⟩ := hending.1 (Option.some.inj hwell)
  obtain rfl := Invocation.generate.inj (hyields.1.symm.trans hinvocation)
  have hwritable : emptySuite.IsWritable (Path.ofString "out/s.js") := ⟨[], _, rfl⟩
  obtain ⟨hstdout, hfile⟩ := (hdelivers _ source hyields).toFile "out/s.js" rfl hwritable
  exact ⟨hargs, report, _, source, hrun, hyields, hstdout, hfile⟩

/-! ### Sources with halves of pairs -/

theorem exists_suite_eq (ctx : SuiteContext) :
    ∃ before after, Jest.suite ctx = before ++ (ctx.title.display ++ after) := by
  refine ⟨"/**\n * ", ?_⟩
  unfold Jest.suite
  simp only [String.append_assoc]
  exact ⟨_, rfl⟩

/-- The title of a suite is in its source. -/
theorem mem_source_of_mem_title {g : Generator} (hcomposer : g.schema.composer = Jest.composer)
    (h : g.generate.outcome = .ok source) {c : Char} (hc : c ∈ g.suite.title.display.toList) :
    c ∈ source.text.toList := by
  rw [Generator.outcome_generate] at h
  obtain ⟨body, -, hcompose⟩ := bind_eq_ok_iff.1 h
  rw [mapError_eq_ok_iff, Generator.composeSuite, hcomposer] at hcompose
  obtain ⟨targets, -, hsource⟩ := bind_eq_ok_iff.1 hcompose
  obtain rfl := Except.ok.inj hsource
  obtain ⟨before, after, htext⟩ := exists_suite_eq (g.suiteContext targets body)
  rw [htext, String.toList_append, String.toList_append]
  exact List.mem_append_right _ (List.mem_append_left _ hc)

/-- The file for a source that has half of a pair is left empty. -/
theorem generate_of_half (hhalves : readsHalves files ga = true)
    (h : Yields files env args ga source) (hhalf : Json.halfChar ∈ source.text.toList)
    {path : String} (houtput : ga.output = some path) :
    ∃ records : List LogRecord,
      generate files env ga =
        ⟨records.map .log ++ [.write (Path.ofString path) ""], .crash .notEncodable⟩ := by
  obtain ⟨-, g, hsets, hsource⟩ := h
  obtain ⟨config, -, -, hsucceeds⟩ := generate_of_setsUp hsets
  have hcontains : source.text.toList.contains Json.halfChar = true :=
    List.contains_iff_mem.2 hhalf
  rw [hsucceeds source hsource, hhalves]
  simp only [finish, houtput, hcontains, Bool.and_self, if_true]
  exact ⟨_, rfl⟩

/-- **What is lost.**  A source that has half of a pair is not in the file that is asked for, though
that can be written.  The run makes the file, leaves it empty and ends without a status. -/
theorem loses_source_of_half (screen : Console.Screen) (hhalves : readsHalves files ga = true)
    (h : Yields files env args ga source) (hhalf : Json.halfChar ∈ source.text.toList)
    {path : String} (houtput : ga.output = some path)
    (hwritable : files.IsWritable (Path.ofString path)) :
    ((generate files env ga).perform screen files).ending = .crash .notEncodable ∧
      files.Receives ((generate files env ga).perform screen files).files (Path.ofString path)
        [] := by
  obtain ⟨records, hgenerate⟩ := generate_of_half hhalves h hhalf houtput
  obtain ⟨⟨written, place⟩, hwrite⟩ := hwritable.exists_write []
  have hempty : "".toUTF8.toList = [] := by simp
  rw [hgenerate, Report.perform, Transcript.perform_records, Transcript.perform, hempty, hwrite]
  have hnul : Path.hasNul path = false := Invocation.hasNul_output h.1 houtput
  exact ⟨rfl, .of_write (fun _ => Path.hasNul_of_mem_names hnul) hwrite⟩

/-- A suite with half of a pair in its title. -/
def halfSuite : Files := .single "s.json" "\x7b\"title\": \"\\ud800\"\x7d"

theorem halfChar_mem_of_load {documents : Documents}
    (hload : loadDocuments halfSuite { suitePath := "s.json", output := some "out.js" } =
      .ok documents) : Json.halfChar ∈ documents.suite.title.display.toList := by
  have htitle : (loadDocuments halfSuite { suitePath := "s.json", output := some "out.js" }).map
      (·.suite.title) = .ok (.text (String.ofList [Json.halfChar])) := by decide +kernel
  rw [hload] at htitle
  rw [show documents.suite.title = .text (String.ofList [Json.halfChar]) from
    Except.ok.inj htitle, Value.display, String.toList_ofList]
  exact List.mem_singleton_self _

/-- There is a source, and its file could be written, but with half of a pair in the source the file
is left empty. -/
theorem half_of_a_pair_is_lost :
    ∃ report source,
      run? halfSuite [] ["generate", "s.json", "--output", "out.js"] = some report ∧
      Yields halfSuite [] ["generate", "s.json", "--output", "out.js"]
        { suitePath := "s.json", output := some "out.js" } source ∧
      Json.halfChar ∈ source.text.toList ∧ halfSuite.IsWritable (Path.ofString "out.js") ∧
      (report.perform .endless halfSuite).ending = .crash .notEncodable ∧
      (report.perform .endless halfSuite).files.read (Path.ofString "out.js") = .ok [] := by
  have hargs : Invocation.ofArguments ["generate", "s.json", "--output", "out.js"] =
      .generate { suitePath := "s.json", output := some "out.js" } := by decide
  have hhalves : readsHalves halfSuite { suitePath := "s.json", output := some "out.js" } =
      true := by decide +kernel
  have hrenders : (outcome? halfSuite []
      { suitePath := "s.json", output := some "out.js" }).map Except.isOk = some true := by
    decide +kernel
  have hwritable : halfSuite.IsWritable (Path.ofString "out.js") := ⟨[], _, rfl⟩
  obtain ⟨outcome, houtcome, hok⟩ := Option.map_eq_some_iff.1 hrenders
  cases outcome with
  | error failure => cases hok
  | ok source =>
    obtain ⟨g, hsets, hgenerate⟩ := exists_setsUp_of_outcome? houtcome
    have hyields : Yields halfSuite [] ["generate", "s.json", "--output", "out.js"]
        { suitePath := "s.json", output := some "out.js" } source := ⟨hargs, g, hsets, hgenerate⟩
    obtain ⟨input, ⟨config, runner, documents, -, -, hload, rfl⟩, hg⟩ := hsets
    have hinput := Generator.toGeneratorInput_of_ofInput hg
    have hhalf : Json.halfChar ∈ source.text.toList := by
      refine mem_source_of_mem_title ?_ hgenerate ?_
      · rw [hinput]
        rfl
      · rw [hinput]
        exact halfChar_mem_of_load hload
    obtain ⟨hending, hfile⟩ :=
      loses_source_of_half .endless hhalves hyields hhalf rfl hwritable
    exact ⟨_, source, run?_of_generate hargs, hyields, hhalf, hwritable, hending, hfile.content⟩

end CommandLine

end SuiteCompiler
