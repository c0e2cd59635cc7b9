import Mathlib.Algebra.GroupWithZero.Nat
import Mathlib.Data.List.Perm.Basic
import Mathlib.Tactic.SplitIfs
import SheetCheck.Proofs.Command.PathArguments
import SheetCheck.Proofs.Command.Totals

/-!
# Inputs are independent

A run on some paths says about each of them what a run on that path alone says, in the order of
the paths, and ends with the worst of the exit codes (`run_paths`).  No input changes what is said
about another one, and none keeps another one from being checked.

The files of a run are those of the first path, then those of the second, and so on
(`sources_eq_ok_iff`), as long as they can be told for each of the paths.  All that a run answers
is a total over its files (`code_check`, `output_check_of_json`, `output_check_of_text`), and a
total over files in groups is one of the totals of the groups.
-/

namespace SheetCheck.Command

variable {render : Rendering} {lookup : Lookup}

/-! ### The files of some paths -/

/-- The files that a path stands for, none if they cannot be told. -/
def filesOf (lookup : Lookup) (path : String) : List Source :=
  match sourcesOf lookup path with
  | .ok ss => ss
  | .error _ => []

lemma filesOf_eq {path : String} {ss : List Source} (h : sourcesOf lookup path = .ok ss) :
    filesOf lookup path = ss := by
  rw [filesOf, h]

lemma sources_cons_eq_ok_iff {path : String} {paths : List String} {ss : List Source} :
    sources lookup (path :: paths) = .ok ss ↔
      ∃ found others, sourcesOf lookup path = .ok found ∧ sources lookup paths = .ok others ∧
        ss = found ++ others := by
  rw [sources]
  cases sourcesOf lookup path <;> cases sources lookup paths <;>
    simp [bind, Except.bind, eq_comm]

/-- The files of some paths can be told if they can for each path, and then are those of each path,
one path after the other. -/
lemma sources_eq_ok_iff {paths : List String} {ss : List Source} :
    sources lookup paths = .ok ss ↔
      (∀ path ∈ paths, sourcesOf lookup path = .ok (filesOf lookup path)) ∧
        ss = paths.flatMap (filesOf lookup) := by
  induction paths generalizing ss with
  | nil => simp [sources, eq_comm]
  | cons path paths ih =>
      rw [sources_cons_eq_ok_iff, List.forall_mem_cons, List.flatMap_cons]
      constructor
      · rintro ⟨found, others, hfound, hothers, rfl⟩
        obtain ⟨hall, rfl⟩ := ih.1 hothers
        rw [filesOf_eq hfound]
        exact ⟨⟨hfound, hall⟩, rfl⟩
      · rintro ⟨⟨hfound, hall⟩, rfl⟩
        exact ⟨_, _, hfound, ih.2 ⟨hall, rfl⟩, rfl⟩

/-- The files of a path alone. -/
lemma sources_singleton {path : String}
    (h : sourcesOf lookup path = .ok (filesOf lookup path)) :
    sources lookup [path] = .ok (filesOf lookup path) :=
  sources_eq_ok_iff.2 ⟨by simpa using h, by simp⟩

/-! ### What files add to a run -/

/-- What a file contributes to the exit code: 0 if its tree is accepted, 1 if it is rejected, and 2
if there is none. -/
def Source.severity (s : Source) : Nat :=
  match s.load with
  | .ok tree => if (Nesting.check tree).failure.isNone then 0 else 1
  | .error _ => 2

lemma Source.path_check (s : Source) : s.check.path = s.path := by
  rw [check]
  cases s.load <;> rfl

lemma Source.severity_check (s : Source) : s.check.outcome.severity = s.severity := by
  rw [check, severity]
  cases s.load with
  | error fault => rfl
  | ok tree =>
      cases h : (Nesting.check tree).failure <;> simp [Outcome.ofChecked, h, Outcome.severity]

lemma Source.severity_lt (s : Source) : s.severity < 3 := by
  rw [severity]
  grind

/-- The numbers of files that are accepted, rejected and unreadable. -/
def countsOf (files : List Source) : Summary :=
  .ofReports (files.map Source.check)

/-- The status lines of some files. -/
def statusLines (files : List Source) : String :=
  String.join (files.map fun s => s.check.outcome.statusLine false s.path)

/-- The JSON objects for some files, one on each line. -/
def recordLines (files : List Source) : String :=
  String.join (files.map fun s => (Record.ofOutcome s.path s.check.outcome).line ++ "\n")

/-- The summary for some files, which counts them by what becomes of them. -/
def summaryLine (files : List Source) : String :=
  tallyText (files.countP (·.severity = 0)) (files.countP (·.severity = 1))
    (files.countP (·.severity = 2)) ++ "\n"

/-- The remarks on some files. -/
def remarks (render : Rendering) (options : Options) (files : List Source) : String :=
  String.join (files.map fun s =>
    remark render options.format options.defaultFilename s.check.outcome)

lemma countsOf_eq (files : List Source) :
    countsOf files =
      ⟨files.countP (·.severity = 0), files.countP (·.severity = 1),
        files.countP (·.severity = 2)⟩ := by
  rw [countsOf, Summary.ofReports, Summary.of_eq]
  simp only [List.map_map, List.countP_map, Function.comp_def, Source.severity_check]

lemma exitCode_countsOf (files : List Source) :
    (countsOf files).exitCode = (files.map Source.severity).foldr max 0 := by
  rw [countsOf, Summary.ofReports, Summary.exitCode_of]
  simp only [List.map_map, Function.comp_def, Source.severity_check]

/-- Every file is counted once. -/
lemma total_countsOf (files : List Source) :
    (countsOf files).passed + (countsOf files).failed + (countsOf files).unreadable =
      files.length := by
  rw [countsOf_eq]
  induction files with
  | nil => rfl
  | cons s files ih =>
      have hs := s.severity_lt
      simp only [List.countP_cons, List.length_cons, decide_eq_true_eq] at ih ⊢
      split_ifs <;> omega

/-! ### Files in groups -/

section Groups

variable (files : String → List Source) (paths : List String)

lemma exitCode_flatMap :
    (countsOf (paths.flatMap files)).exitCode =
      (paths.map fun p => (countsOf (files p)).exitCode).foldr max 0 := by
  simp only [exitCode_countsOf, List.map_flatMap, foldr_max_flatMap]

lemma statusLines_flatMap :
    statusLines (paths.flatMap files) = String.join (paths.map fun p => statusLines (files p)) := by
  rw [statusLines, List.map_flatMap, join_flatMap]
  rfl

lemma recordLines_flatMap :
    recordLines (paths.flatMap files) = String.join (paths.map fun p => recordLines (files p)) := by
  rw [recordLines, List.map_flatMap, join_flatMap]
  rfl

lemma remarks_flatMap (options : Options) :
    remarks render options (paths.flatMap files) =
      String.join (paths.map fun p => remarks render options (files p)) := by
  rw [remarks, List.map_flatMap, join_flatMap]
  rfl

end Groups

/-! ### Files in another order -/

lemma countsOf_perm {files files' : List Source} (h : files.Perm files') :
    countsOf files = countsOf files' := by
  simp only [countsOf_eq, h.countP_eq]

/-! ### What a run answers -/

section Answers

variable {coloured : Bool} {options : Options} {files : List Source}

/-- A run whose files can be told. -/
lemma check_eq_ofReports (h : sources lookup options.paths = .ok files) :
    check render lookup coloured options =
      .ofReports render coloured options (files.map Source.check) := by
  rw [check, reports, h]
  rfl

lemma code_check (h : sources lookup options.paths = .ok files) :
    (check render lookup coloured options).code = (countsOf files).exitCode := by
  rw [check_eq_ofReports h]
  rfl

/-- Without a log, a run in JSON writes the objects and nothing else. -/
lemma output_check_of_json (quiet : options.verbose = false) (json : options.format = .json)
    (h : sources lookup options.paths = .ok files) :
    (check render lookup false options).output = ⟨recordLines files, ""⟩ := by
  have hout : (check render lookup false options).output.out = recordLines files := by
    rw [check_eq_ofReports h, Result.out_ofReports, closing_of_json json, String.append_empty]
    simp only [Report.output_of_json _ json, recordLines, List.map_map, Function.comp_def,
      Source.path_check]
  have herr : (check render lookup false options).output.err = "" := by
    rw [check_eq_ofReports h, Result.err_ofReports_of_json _ _ _ json, logText_of_quiet quiet]
  rw [← hout, ← herr]

/-- Without a log, a run in the other formats writes the status lines and the summary, and the
remarks. -/
lemma output_check_of_text (quiet : options.verbose = false) (text : options.format ≠ .json)
    (h : sources lookup options.paths = .ok files) :
    (check render lookup false options).output =
      ⟨statusLines files ++ summaryLine files, remarks render options files⟩ := by
  have hout : (check render lookup false options).output.out =
      statusLines files ++ summaryLine files := by
    have hsummary : (Summary.ofReports (files.map Source.check)).line false =
        summaryLine files := by
      rw [Summary.line_eq, ← countsOf, countsOf_eq, summaryLine]
    rw [check_eq_ofReports h, Result.out_ofReports, closing_of_text text, hsummary]
    simp only [Report.output_of_text _ text, statusLines, List.map_map, Function.comp_def,
      Source.path_check]
  have herr : (check render lookup false options).output.err = remarks render options files := by
    rw [check_eq_ofReports h, Result.err_ofReports, logText_of_quiet quiet, String.empty_append]
    simp only [Report.output_of_text _ text, logText_of_quiet quiet, String.empty_append, remarks,
      List.map_map, Function.comp_def]
  rw [← hout, ← herr]

end Answers

/-- What a run on the paths of `options` with the files `files` has to do with the runs on each
path alone. -/
structure Independent (render : Rendering) (lookup : Lookup) (options : Options)
    (files : List Source) (whole : Result) (alone : String → Result) : Prop where
  /-- The files are those of each path, in the order of the paths. -/
  enumerated : files = options.paths.flatMap (filesOf lookup)
  /-- The exit code is the worst of those for each path. -/
  code : whole.code = (options.paths.map fun p => (alone p).code).foldr max 0
  /-- The exit code for a path is the worst that one of its files contributes. -/
  alone_code : ∀ p ∈ options.paths,
    (alone p).code = ((filesOf lookup p).map Source.severity).foldr max 0
  /-- The files are counted by what becomes of them. -/
  counts : countsOf files =
    ⟨files.countP (·.severity = 0), files.countP (·.severity = 1), files.countP (·.severity = 2)⟩
  /-- Every file is counted once. -/
  total : (countsOf files).passed + (countsOf files).failed + (countsOf files).unreadable =
    files.length
  /-- The counts are those of the files for each path, added up. -/
  passed : (countsOf files).passed =
    (options.paths.map fun p => (countsOf (filesOf lookup p)).passed).sum
  failed : (countsOf files).failed =
    (options.paths.map fun p => (countsOf (filesOf lookup p)).failed).sum
  unreadable : (countsOf files).unreadable =
    (options.paths.map fun p => (countsOf (filesOf lookup p)).unreadable).sum
  /-- In JSON, the output on a path is the objects for its files. -/
  alone_json : options.format = .json → ∀ p ∈ options.paths,
    (alone p).output = ⟨recordLines (filesOf lookup p), ""⟩
  /-- In JSON, the outputs on each path follow one another. -/
  json : options.format = .json →
    whole.output = ⟨String.join (options.paths.map fun p => (alone p).output.out), ""⟩
  /-- In the other formats, the output on a path is its status lines and a summary, and the remarks
  on its files. -/
  alone_text : options.format ≠ .json → ∀ p ∈ options.paths,
    (alone p).output =
      ⟨statusLines (filesOf lookup p) ++ summaryLine (filesOf lookup p),
        remarks render options (filesOf lookup p)⟩
  /-- In the other formats, the status lines for each path follow one another, with one summary
  below them, and so do the remarks. -/
  text : options.format ≠ .json →
    whole.output =
      ⟨String.join (options.paths.map fun p => statusLines (filesOf lookup p)) ++
          summaryLine files,
        String.join (options.paths.map fun p => (alone p).output.err)⟩
  /-- The exit code and the counts are the same for the paths in another order. -/
  of_perm : ∀ args' options', Options.ofArguments args' = .ok options' →
    options'.paths.Perm options.paths →
      ∃ files', sources lookup options'.paths = .ok files' ∧ countsOf files' = countsOf files ∧
        (run render lookup false args').code = whole.code

lemma run_eq {coloured : Bool} {args : List String} {options : Options}
    (h : Options.ofArguments args = .ok options) :
    run render lookup coloured args = check render lookup coloured options := by
  rw [run, h]

/-- A run on some paths, whose files can be told, and the runs with the same options on each of the
paths alone. -/
theorem run_paths {args : List String} {options : Options} {alone : String → List String}
    {files : List Source} (render : Rendering) (whole : Options.ofArguments args = .ok options)
    (single : ∀ p ∈ options.paths,
      Options.ofArguments (alone p) = .ok { options with paths := [p] })
    (quiet : options.verbose = false) (walk : sources lookup options.paths = .ok files) :
    Independent render lookup options files (run render lookup false args)
      fun p => run render lookup false (alone p) := by
  obtain ⟨each, rfl⟩ := sources_eq_ok_iff.1 walk
  have hwhole : run render lookup false args = check render lookup false options := run_eq whole
  have halone : ∀ p ∈ options.paths, run render lookup false (alone p) =
      check render lookup false { options with paths := [p] } :=
    fun p hp => run_eq (single p hp)
  have hwalk : ∀ p ∈ options.paths, sources lookup [p] = .ok (filesOf lookup p) :=
    fun p hp => sources_singleton (each p hp)
  have hjson : options.format = .json → ∀ p ∈ options.paths,
      (run render lookup false (alone p)).output = ⟨recordLines (filesOf lookup p), ""⟩ := by
    intro json p hp
    rw [halone p hp]
    exact output_check_of_json quiet json (hwalk p hp)
  have htext : options.format ≠ .json → ∀ p ∈ options.paths,
      (run render lookup false (alone p)).output =
        ⟨statusLines (filesOf lookup p) ++ summaryLine (filesOf lookup p),
          remarks render options (filesOf lookup p)⟩ := by
    intro text p hp
    rw [halone p hp]
    exact output_check_of_text quiet text (hwalk p hp)
  -- All answers are totals over files now, so that only the totals of groups remain.
  constructor
  case enumerated => rfl
  case code =>
    rw [hwhole, code_check walk, exitCode_flatMap]
    exact congrArg _ (List.map_congr_left fun p hp => by rw [halone p hp, code_check (hwalk p hp)])
  case alone_code =>
    intro p hp
    rw [halone p hp, code_check (hwalk p hp)]
    exact exitCode_countsOf _
  case counts => exact countsOf_eq _
  case total => exact total_countsOf _
  case passed | failed | unreadable =>
    simp only [countsOf_eq, List.countP_flatMap, Function.comp_def]
  case alone_json => exact hjson
  case json =>
    intro json
    have hout : (options.paths.map fun p => (run render lookup false (alone p)).output.out) =
        options.paths.map fun p => recordLines (filesOf lookup p) :=
      List.map_congr_left fun p hp => by rw [hjson json p hp]
    rw [hwhole, output_check_of_json quiet json walk, hout, recordLines_flatMap]
  case alone_text => exact htext
  case text =>
    intro text
    have herr : (options.paths.map fun p => (run render lookup false (alone p)).output.err) =
        options.paths.map fun p => remarks render options (filesOf lookup p) :=
      List.map_congr_left fun p hp => by rw [htext text p hp]
    rw [hwhole, output_check_of_text quiet text walk, herr, statusLines_flatMap, remarks_flatMap]
  case of_perm =>
    intro args' options' hargs' hperm
    have walk' : sources lookup options'.paths = .ok (options'.paths.flatMap (filesOf lookup)) :=
      sources_eq_ok_iff.2 ⟨fun p hp => each p (hperm.mem_iff.1 hp), rfl⟩
    have hcounts := countsOf_perm (hperm.flatMap_right (filesOf lookup))
    refine ⟨_, walk', hcounts, ?_⟩
    rw [hwhole, code_check walk, run_eq hargs', code_check walk', hcounts]

/-! ### Inputs of each kind -/

/-- A sheet with nothing in it. -/
def emptySheet : ByteArray := "\x7b\"kind\":\x7b\"type\":\"root\"\x7d\x7d".toUTF8

/-- A sheet, written with arrays, in which something is returned outside of functions. -/
def strayReturnSheet : ByteArray := "[[\"root\"],[[[\"return\"]]]]".toUTF8

/-- A file that ends too early to hold a tree. -/
def brokenSheet : ByteArray := "\x7b\"kind\":".toUTF8

/-- Three files, and a directory with a fourth one that is not text. -/
def mixedInputs : Lookup
  | "valid.json" => .ok (.file (.ok emptySheet))
  | "stray.json" => .ok (.file (.ok strayReturnSheet))
  | "broken.json" => .ok (.file (.ok brokenSheet))
  | "deep" => .ok (.directory [("main.json", .file (.error .notText))])
  | _ => .error .notFound

/-- A check of these, of a file that is missing, and of one of them again. -/
def mixedOptions : Options :=
  ⟨["broken.json", "gone.json", "deep", "stray.json", "valid.json", "broken.json"], .trace,
    "an unknown file", false⟩

/-- The files that such a check finds. -/
def mixedFiles : List Source :=
  [⟨"broken.json", .ok brokenSheet⟩, ⟨"gone.json", .error .notFound⟩,
    ⟨"deep/main.json", .error .notText⟩, ⟨"stray.json", .ok strayReturnSheet⟩,
    ⟨"valid.json", .ok emptySheet⟩, ⟨"broken.json", .ok brokenSheet⟩]

lemma sourcesOf_mixedInputs_deep :
    sourcesOf mixedInputs "deep" = .ok [⟨"deep/main.json", .error .notText⟩] := by
  have hname : isTreeName "main.json" = true := by decide
  have hpath : joinPath "deep" ["main.json"] = "deep/main.json" := by decide +kernel
  simp [sourcesOf, mixedInputs, Entry.closedParts, Entry.closedPartsIn, treeFiles, Entry.files,
    Entry.filesIn, hname, hpath]

/-- An accepted sheet, a rejected one, a file without a tree, one without text, and a path without
a file, each of them checked in one run and alone. -/
theorem run_paths_mixedInputs :
    mixedFiles.map Source.severity = [2, 2, 2, 1, 0, 2] ∧
      Independent Diagnosis.message mixedInputs mixedOptions mixedFiles
        (run Diagnosis.message mixedInputs false
          ["check", "--format", "trace", "broken.json", "gone.json", "deep", "stray.json",
            "valid.json", "broken.json"])
        fun p => run Diagnosis.message mixedInputs false ["check", "--format", "trace", p] := by
  have hflags : checkArguments ⟨[], none, none, false⟩ ["--format", "trace"] =
      .ok ⟨[], some .trace, none, false⟩ := checkArguments_format rfl rfl
  have hpaths : ∀ p ∈ mixedOptions.paths, IsPath p := by decide
  have whole : Options.ofArguments ("check" :: (["--format", "trace"] ++ mixedOptions.paths)) =
      .ok mixedOptions := ofArguments_check hflags rfl hpaths (List.cons_ne_nil _ _)
  have single : ∀ p ∈ mixedOptions.paths,
      Options.ofArguments ("check" :: (["--format", "trace"] ++ [p])) =
        .ok { mixedOptions with paths := [p] } := fun p hp =>
    ofArguments_check hflags rfl (by simpa using hpaths p hp) (List.cons_ne_nil _ _)
  have walk : sources mixedInputs mixedOptions.paths = .ok mixedFiles := by
    simp only [mixedOptions, sources, sourcesOf_mixedInputs_deep]
    rfl
  exact ⟨by decide +kernel, run_paths Diagnosis.message whole single rfl walk⟩

end SheetCheck.Command
