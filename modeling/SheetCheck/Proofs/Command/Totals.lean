import Mathlib.Data.List.Basic
import SheetCheck.Command.Run

/-!
# Totals over files

A run adds up what it says about each file: outputs are put one after the other, files are counted
by their outcome, and the exit code tells the worst outcome.  All three are folds over the files, so
that for files in groups they can be formed group by group: `Output.join_eq`, `Summary.of_eq` and
`Summary.exitCode_of` bring them into a form for which the library knows this.

What stands around the outputs for the files is put on one channel each, the summary on the standard
output (`Result.out_ofReports`) and the log on the standard error (`Result.err_ofReports`).
-/

namespace SheetCheck.Command

/-! ### Outputs -/

namespace Output

lemma foldl_append_eq (a : Output) (os : List Output) :
    os.foldl append a =
      ⟨a.out ++ String.join (os.map out), a.err ++ String.join (os.map err)⟩ := by
  induction os generalizing a with
  | nil => simp
  | cons o os ih =>
      rw [List.foldl_cons, ih]
      simp [append, String.append_assoc]

/-- Outputs are joined on each of the two channels. -/
lemma join_eq (os : List Output) :
    join os = ⟨String.join (os.map out), String.join (os.map err)⟩ := by
  rw [join, foldl_append_eq]
  simp [empty]

lemma out_append (a b : Output) : (a ++ b).out = a.out ++ b.out := rfl

lemma err_append (a b : Output) : (a ++ b).err = a.err ++ b.err := rfl

end Output

/-! ### Outcomes -/

/-- What an outcome contributes to the exit code. -/
def Outcome.severity : Outcome → Nat
  | .passed => 0
  | .failed _ => 1
  | .unreadable _ => 2

namespace Summary

/-- The numbers of outcomes of each severity. -/
lemma foldl_add_eq (s : Summary) (os : List Outcome) :
    os.foldl add s =
      ⟨s.passed + os.countP (·.severity = 0), s.failed + os.countP (·.severity = 1),
        s.unreadable + os.countP (·.severity = 2)⟩ := by
  induction os generalizing s with
  | nil => rfl
  | cons o os ih =>
      rw [List.foldl_cons, ih]
      cases o <;> simp [add, Outcome.severity] <;> omega

lemma of_eq (os : List Outcome) :
    of os =
      ⟨os.countP (·.severity = 0), os.countP (·.severity = 1), os.countP (·.severity = 2)⟩ := by
  rw [of, foldl_add_eq]
  simp [zero]

/-- One more file makes the exit code worse if its outcome is worse. -/
lemma exitCode_add (s : Summary) (o : Outcome) :
    (s.add o).exitCode = max s.exitCode o.severity := by
  cases o <;> grind [add, exitCode, Outcome.severity]

lemma exitCode_foldl_add (s : Summary) (os : List Outcome) :
    (os.foldl add s).exitCode = (os.map Outcome.severity).foldr max s.exitCode := by
  induction os generalizing s with
  | nil => rfl
  | cons o os ih =>
      rw [List.foldl_cons, ih, exitCode_add, List.map_cons, List.foldr_cons, List.foldr_assoc,
        Nat.max_comm]

/-- The exit code tells the worst outcome. -/
lemma exitCode_of (os : List Outcome) :
    (of os).exitCode = (os.map Outcome.severity).foldr max 0 :=
  exitCode_foldl_add zero os

end Summary

/-- Three numbers of files in words, those that are accepted, those that are rejected and those that
are unreadable; the last go unmentioned when there are none. -/
def tallyText (passed failed unreadable : ℕ) : String :=
  toString passed ++ " passed, " ++ toString failed ++ " failed" ++
    if unreadable = 0 then "" else ", " ++ toString unreadable ++ " unreadable"

lemma Summary.line_eq (s : Summary) :
    s.line false = tallyText s.passed s.failed s.unreadable ++ "\n" := by
  have htext : s.text = tallyText s.passed s.failed s.unreadable := by
    obtain ⟨passed, failed, unreadable⟩ := s
    rw [text, tallyText]
    by_cases hnone : unreadable = 0
    · subst hnone
      rfl
    · simp only [if_pos (Nat.pos_of_ne_zero hnone), if_neg hnone]
      rfl
  rw [← htext]
  rfl

/-! ### Results -/

lemma closing_of_json {coloured : Bool} {format : Format} (json : format = .json) (s : Summary) :
    closing coloured format s = ⟨"", ""⟩ := by
  rw [json]
  rfl

lemma closing_of_text {coloured : Bool} {format : Format} (text : format ≠ .json) (s : Summary) :
    closing coloured format s = ⟨s.line coloured, ""⟩ := by
  cases format with
  | json => exact absurd rfl text
  | human | trace => rfl

namespace Report

variable {render : Rendering} {coloured : Bool} {options : Options} (r : Report)

lemma output_of_json (json : options.format = .json) :
    r.output render coloured options =
      ⟨(Record.ofOutcome r.path r.outcome).line ++ "\n", logText options r.logLines⟩ := by
  rw [output, json]

lemma output_of_text (text : options.format ≠ .json) :
    r.output render coloured options =
      ⟨r.outcome.statusLine coloured r.path,
        logText options r.logLines ++
          remark render options.format options.defaultFilename r.outcome⟩ := by
  rw [output]
  split
  · next json => exact absurd json text
  · rfl

end Report

section Log

variable {options : Options}

lemma logText_of_quiet (quiet : options.verbose = false) (lines : List String) :
    logText options lines = "" := by
  rw [logText, quiet]
  rfl

lemma logText_append (ls ms : List String) :
    logText options (ls ++ ms) = logText options ls ++ logText options ms := by
  unfold logText
  split
  · rw [List.map_append, String.join_append]
  · rfl

/-- A log in parts is the log of all the lines. -/
lemma logText_flatMap {α : Type} (f : α → List String) (as : List α) :
    logText options (as.flatMap f) = String.join (as.map fun a => logText options (f a)) := by
  induction as with
  | nil => exact ite_self ""
  | cons a as ih => rw [List.flatMap_cons, logText_append, ih, List.map_cons, String.join_cons]

end Log

namespace Result

variable (render : Rendering) (coloured : Bool) {options : Options} (rs : List Report)

lemma out_ofReports :
    (ofReports render coloured options rs).output.out =
      String.join (rs.map fun r => (r.output render coloured options).out) ++
        (closing coloured options.format (.ofReports rs)).out := by
  rw [ofReports]
  simp only [Output.out_append, Output.join_eq, opening, String.empty_append, List.map_map,
    Function.comp_def]

lemma err_ofReports :
    (ofReports render coloured options rs).output.err =
      logText options [s!"INFO checking {rs.length} tree file(s)"] ++
        String.join (rs.map fun r => (r.output render coloured options).err) := by
  have hclosing : (closing coloured options.format (.ofReports rs)).err = "" := by
    cases options.format <;> rfl
  rw [ofReports]
  simp only [Output.err_append, Output.join_eq, opening, hclosing, String.append_empty,
    List.map_map, Function.comp_def]

/-- A log makes no difference to the exit code and the standard output. -/
theorem ofReports_verbose (verbose : Bool) :
    (ofReports render coloured { options with verbose := verbose } rs).code =
        (ofReports render coloured options rs).code ∧
      (ofReports render coloured { options with verbose := verbose } rs).output.out =
        (ofReports render coloured options rs).output.out := by
  refine ⟨rfl, ?_⟩
  have hout (r : Report) : (r.output render coloured { options with verbose := verbose }).out =
      (r.output render coloured options).out := by
    unfold Report.output
    cases options.format <;> rfl
  simp only [out_ofReports, hout]

/-- In JSON the standard error is the log: how many files are checked, and for each of them what
its check does and what comes of it. -/
theorem err_ofReports_of_json (json : options.format = .json) :
    (ofReports render coloured options rs).output.err =
      logText options
        (s!"INFO checking {rs.length} tree file(s)" :: rs.flatMap Report.logLines) := by
  have hlog : (fun r : Report => (r.output render coloured options).err) =
      fun r => logText options r.logLines := by
    funext r
    rw [r.output_of_json json]
  rw [err_ofReports, hlog, ← logText_flatMap, ← logText_append, List.singleton_append]

end Result

/-! ### Groups -/

lemma foldr_max_append (ms ns : List Nat) :
    (ms ++ ns).foldr max 0 = max (ms.foldr max 0) (ns.foldr max 0) := by
  rw [List.foldr_append]
  calc ms.foldr max (ns.foldr max 0)
      = ms.foldr max (max 0 (ns.foldr max 0)) := by rw [Nat.zero_max]
    _ = max (ms.foldr max 0) (ns.foldr max 0) := List.foldr_assoc

/-- The greatest number of all groups is the greatest among those of each group. -/
lemma foldr_max_flatMap {α : Type} (f : α → List Nat) (as : List α) :
    (as.flatMap f).foldr max 0 = (as.map fun a => (f a).foldr max 0).foldr max 0 := by
  induction as with
  | nil => rfl
  | cons a as ih =>
      rw [List.flatMap_cons, foldr_max_append, ih, List.map_cons, List.foldr_cons]

/-- The texts of all groups are those of each group, one after the other. -/
lemma join_flatMap {α : Type} (f : α → List String) (as : List α) :
    String.join (as.flatMap f) = String.join (as.map fun a => String.join (f a)) := by
  induction as with
  | nil => rfl
  | cons a as ih =>
      rw [List.flatMap_cons, String.join_append, ih, List.map_cons, String.join_cons]

end SheetCheck.Command
