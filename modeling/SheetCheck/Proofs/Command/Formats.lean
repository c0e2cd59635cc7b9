import SheetCheck.Proofs.Command.Independence
import SheetCheck.Proofs.Command.Records

/-!
# Formats agree

A run says in each format what it has found out about its files, once in status lines with a summary
below them and once in records.  The words differ, and the findings do not (`run_formats`): the exit
code is the same in all formats, the standard output is the same in both formats for readers, and
its status lines are those of the records, one for each, with the summary counting records.

In any format the standard output is a text of lines, of records (`toList_out_ofReports`) or of
status lines (`toList_out_ofReports_of_text`).  Either line for a report is made from this report
alone, so that lines are compared report by report (`Record.listedAs_ofOutcome`).
-/

namespace SheetCheck.Command

/-! ### Records and what they are listed as -/

namespace Record

/-- The status line of the file that a record is about: `ok` when the record says so, `FAILED` when
it has a message, and `ERROR` when it has an error. -/
def ListedAs (r : Record) (status : List Char) : Prop :=
  ∃ label ∈ ["ok", "FAILED", "ERROR"], status = (label ++ " " ++ r.file).toList ∧
    (label = "ok" ↔ r.ok = true) ∧ (label = "FAILED" ↔ r.message ≠ none) ∧
    (label = "ERROR" ↔ r.error ≠ none)

/-- The numbers of records that say `ok`, that have a message and that have an error, in words. -/
def tally (rs : List Record) : String :=
  tallyText (rs.countP (·.ok)) (rs.countP (·.message.isSome)) (rs.countP (·.error.isSome))

variable (file : String) (o : Outcome)

lemma listedAs_ofOutcome : (ofOutcome file o).ListedAs (o.label ++ " " ++ file).toList := by
  cases o with
  | passed => exact ⟨"ok", by simp [ofOutcome, Outcome.label]⟩
  | failed e => exact ⟨"FAILED", by simp [ofOutcome, Outcome.label]⟩
  | unreadable error => exact ⟨"ERROR", by simp [ofOutcome, Outcome.label]⟩

lemma file_ofOutcome : (ofOutcome file o).file = file := by
  cases o <;> rfl

lemma ok_ofOutcome : (ofOutcome file o).ok = decide (o.severity = 0) := by
  cases o <;> rfl

lemma isSome_message_ofOutcome :
    (ofOutcome file o).message.isSome = decide (o.severity = 1) := by
  cases o <;> rfl

lemma isSome_error_ofOutcome : (ofOutcome file o).error.isSome = decide (o.severity = 2) := by
  cases o <;> rfl

end Record

/-! ### The lines for readers -/

namespace Report

variable (r : Report)

/-- The status line of a report, without the line feed. -/
def status : List Char := (r.outcome.label ++ " " ++ r.path).toList

/-- The record of a report. -/
def record : Record := .ofOutcome r.path r.outcome

lemma listedAs_status : r.record.ListedAs r.status := Record.listedAs_ofOutcome r.path r.outcome

lemma toList_statusLine :
    (r.outcome.statusLine false r.path).toList = r.status ++ ['\n'] := by
  have hline : r.outcome.statusLine false r.path = r.outcome.label ++ " " ++ r.path ++ "\n" := rfl
  rw [hline, String.toList_append, status]
  rfl

lemma not_mem_status (h : '\n' ∉ r.path.toList) : '\n' ∉ r.status := by
  have hlabel : '\n' ∉ r.outcome.label.toList := by
    cases r.outcome with
    | passed => exact (by decide : '\n' ∉ "ok".toList)
    | failed e => exact (by decide : '\n' ∉ "FAILED".toList)
    | unreadable error => exact (by decide : '\n' ∉ "ERROR".toList)
  rw [status, String.toList_append, String.toList_append]
  simp [hlabel, h]

end Report

/-- The outcomes of reports are counted by counting records. -/
lemma ofReports_eq (rs : List Report) :
    Summary.ofReports rs =
      ⟨(rs.map Report.record).countP (·.ok), (rs.map Report.record).countP (·.message.isSome),
        (rs.map Report.record).countP (·.error.isSome)⟩ := by
  rw [Summary.ofReports, Summary.of_eq]
  simp only [List.countP_map, Function.comp_def, Report.record, Record.ok_ofOutcome,
    Record.isSome_message_ofOutcome, Record.isSome_error_ofOutcome]

lemma toList_line_ofReports (rs : List Report) :
    ((Summary.ofReports rs).line false).toList =
      (Record.tally (rs.map Report.record)).toList ++ ['\n'] := by
  rw [Summary.line_eq, ofReports_eq, String.toList_append]
  rfl

lemma not_mem_tallyText (passed failed unreadable : ℕ) :
    '\n' ∉ (tallyText passed failed unreadable).toList := by
  have hnumber (n : ℕ) : '\n' ∉ Nat.toDigits 10 n := (Json.plain_toDigits n).not_mem_newline
  have htail : '\n' ∉
      (if unreadable = 0 then "" else ", " ++ toString unreadable ++ " unreadable").toList := by
    split
    · decide
    · simp [hnumber]
  rw [tallyText, String.toList_append, List.mem_append, not_or]
  refine ⟨?_, htail⟩
  simp [hnumber]

section Readers

variable (render : Rendering) {options : Options}

/-- The output of a run for readers is a status line for each report, in their order, and below them
the summary. -/
lemma toList_out_ofReports_of_text (text : options.format ≠ .json) (rs : List Report) :
    (Result.ofReports render false options rs).output.out.toList =
      (rs.map Report.status ++ [(Record.tally (rs.map Report.record)).toList]).flatMap
        (· ++ ['\n']) := by
  rw [Result.out_ofReports, closing_of_text text, String.toList_append, toList_line_ofReports,
    String.toList_join, List.flatMap_append, List.flatMap_map, List.flatMap_map]
  simp only [Report.output_of_text _ text, Report.toList_statusLine, List.flatMap_singleton]

/-- The output of a run for readers, line by line. -/
lemma statuses_ofReports (text : options.format ≠ .json) {rs : List Report}
    (oneLine : ∀ r ∈ rs, '\n' ∉ r.path.toList) :
    (Result.ofReports render false options rs).output.out.toList.splitOn '\n' =
      rs.map Report.status ++ [(Record.tally (rs.map Report.record)).toList, []] := by
  rw [toList_out_ofReports_of_text render text, splitOn_flatMap_newline, List.append_assoc]
  · rfl
  · rw [List.forall_mem_append, List.forall_mem_map, List.forall_mem_singleton]
    exact ⟨fun r hr => r.not_mem_status (oneLine r hr), not_mem_tallyText _ _ _⟩

end Readers

/-! ### Runs in all formats -/

/-- Runs on the files `files`, in each of the formats, that agree. -/
structure FormatsAgree (files : List Source) (result : Format → Result) : Prop where
  /-- All formats end with the same exit code. -/
  code (f g : Format) : (result f).code = (result g).code
  /-- Both formats for readers write the same to the standard output. -/
  out : (result .human).output.out = (result .trace).output.out
  /-- Records and status lines are about the same files in the same order, and the last line for
  readers counts the records. -/
  lines : ∃ rows records statuses,
    (result .json).output.out.toList.splitOn '\n' = rows ++ [[]] ∧
    (rows.map fun row => Record.ofLine? (String.ofList row)) = records.map some ∧
    records.map Record.file = files.map Source.path ∧
    (result .human).output.out.toList.splitOn '\n' =
      statuses ++ [(Record.tally records).toList, []] ∧
    List.Forall₂ Record.ListedAs records statuses

variable {lookup : Lookup}

/-- **The formats of a run agree.**  Runs on files that can be told, with the same options but for
the format and without colours, end with the same exit code.  The two formats for readers write the
same to the standard output.  As long as no path breaks a line, its lines but the last are about the
same files as the lines in JSON, each labelled by what the record in JSON tells, and the last one
counts the records of each class. -/
theorem run_formats {args : Format → List String} {options : Options} {files : List Source}
    (render : Rendering)
    (asks : ∀ f, Options.ofArguments (args f) = .ok { options with format := f })
    (walk : sources lookup options.paths = .ok files)
    (oneLine : ∀ s ∈ files, '\n' ∉ s.path.toList) :
    FormatsAgree files fun f => run render lookup false (args f) := by
  have hrun : ∀ f, run render lookup false (args f) =
      .ofReports render false { options with format := f } (files.map Source.check) :=
    fun f => (run_eq (asks f)).trans (check_eq_ofReports walk)
  have hpaths : ∀ r ∈ files.map Source.check, '\n' ∉ r.path.toList := by
    rw [List.forall_mem_map]
    exact fun s hs => by rw [s.path_check]; exact oneLine s hs
  have hhuman : ({ options with format := .human } : Options).format ≠ .json := by simp
  have htrace : ({ options with format := .trace } : Options).format ≠ .json := by simp
  have hjson : ({ options with format := .json } : Options).format = .json := rfl
  constructor
  case code =>
    intro f g
    rw [hrun, hrun]
    rfl
  case out =>
    rw [hrun, hrun, ← String.toList_inj]
    exact (toList_out_ofReports_of_text render hhuman _).trans
      (toList_out_ofReports_of_text render htrace _).symm
  case lines =>
    obtain ⟨rows, hrows, hrecords⟩ := records_ofReports render false hjson (files.map Source.check)
    refine ⟨rows, (files.map Source.check).map Report.record,
      (files.map Source.check).map Report.status, ?_, ?_, ?_, ?_, ?_⟩
    · rw [hrun, hrows]
    · rw [hrecords, List.map_map (g := some)]
      rfl
    · simp only [List.map_map]
      exact List.map_congr_left fun s _ => by
        rw [Function.comp_apply, Function.comp_apply, Report.record, Record.file_ofOutcome]
        exact s.path_check
    · rw [hrun]
      exact statuses_ofReports render hhuman hpaths
    · rw [List.forall₂_map_left_iff, List.forall₂_map_right_iff]
      exact List.forall₂_same.2 fun r _ => r.listedAs_status

/-! ### A run with outcomes of all classes -/

/-- One file of each class. -/
def classedInputs : Lookup
  | "good.json" => .ok (.file (.ok emptySheet))
  | "stray.json" => .ok (.file (.ok strayReturnSheet))
  | "broken.json" => .ok (.file (.ok brokenSheet))
  | _ => .error .notFound

/-- These files, and one that is missing. -/
def classedFiles : List Source :=
  [⟨"stray.json", .ok strayReturnSheet⟩, ⟨"broken.json", .ok brokenSheet⟩,
    ⟨"good.json", .ok emptySheet⟩, ⟨"gone.json", .error .notFound⟩]

/-- A check of these. -/
def classedOptions : Options :=
  ⟨classedFiles.map Source.path, .human, "an unknown file", false⟩

/-- The arguments for such a check in a format. -/
def classedArguments (format : Format) : List String :=
  let word := match format with
    | .human => "human"
    | .trace => "trace"
    | .json => "json"
  "check" :: (["--format", word] ++ classedOptions.paths)

/-- A rejected sheet, a file without a tree, an accepted sheet and a missing file, in all
formats. -/
theorem run_formats_classedFiles :
    classedFiles.map Source.severity = [1, 2, 0, 2] ∧
      FormatsAgree classedFiles fun f =>
        run Diagnosis.message classedInputs false (classedArguments f) := by
  have hpaths : ∀ p ∈ classedOptions.paths, IsPath p := by decide
  have asks : ∀ f, Options.ofArguments (classedArguments f) =
      .ok { classedOptions with format := f } := by
    intro f
    obtain ⟨word, hargs, hformat, hword⟩ : ∃ word,
        classedArguments f = "check" :: (["--format", word] ++ classedOptions.paths) ∧
          Format.ofName? word = some f ∧ canBeValue word = true := by
      cases f <;> exact ⟨_, rfl, rfl, rfl⟩
    rw [hargs]
    exact ofArguments_check (checkArguments_format hformat hword) rfl hpaths
      (List.cons_ne_nil _ _)
  have walk : sources classedInputs classedOptions.paths = .ok classedFiles := rfl
  exact ⟨by decide +kernel, run_formats Diagnosis.message asks walk (by decide)⟩

end SheetCheck.Command
