import SheetCheck.Proofs.Command.Totals
import SheetCheck.Proofs.Json.OneLine
import SheetCheck.Proofs.Node.RoundTrip

/-!
# Records read back

Each file of a run has a record of its own, a JSON object on one line.  Whoever reads such a line
finds out all that the record was made of (`Record.ofLine?_line`): the file, whether it passed, the
message, the rule and the frames of a failure, or why the file could not be read
(`Record.tells_ofOutcome`).  So a line says which file and which outcome it is about, up to the
source of a failure, which is not written (`Record.line_eq_iff`).  The output of a run is read back
line by line (`records_ofReports`), and a failure from its own JSON text
(`Failure.ofText?_compact`).

The readers here look members up by their names.  A member that is left out and one that is `null`
are two different things to them, as they are to the writer.
-/

namespace SheetCheck

open Json (Plain)

/-- The text of an object on one line, whose members have different names. -/
def IsObjectLine (text : List Char) : Prop :=
  Plain text ∧ ∃ ms, (Json.Value.object ms).Written text ∧ (ms.map Prod.fst).Nodup

lemma isObjectLine_compact {ms : List (String × Json.Value)}
    (hfit : (Json.Value.object ms).FitsWords) (hnames : (ms.map Prod.fst).Nodup) :
    IsObjectLine (Json.Value.object ms).compact.toList := by
  rw [Json.Value.compact, String.toList_ofList]
  exact ⟨Json.Value.plain_text hfit, ms, Json.Value.written_text hfit, hnames⟩

namespace Json.Value

variable {α : Type}

/-- The text that a value is. -/
def text? : Value → Option String
  | string s => some s
  | _ => none

/-- The truth value that a value is. -/
def boolean? : Value → Option Bool
  | boolean b => some b
  | _ => none

/-- The line that a value is. -/
def line? (v : Value) : Option UInt64 := (Node.lineOfValue v).toOption

/-- The items of an array, each of them read by `read`. -/
def list? (read : Value → Option α) : Value → Option (List α)
  | array vs => vs.mapM read
  | _ => none

/-- What `read` reads, none for `null`. -/
def nullable? (read : Value → Option α) : Value → Option (Option α)
  | null => some none
  | v => (read v).map some

/-- A member that has to be there. -/
def required? (key : String) (read : Value → Option α) (v : Value) : Option α :=
  (v.member? key).bind read

/-- A member that may be left out. -/
def optional? (key : String) (read : Value → Option α) (v : Value) : Option (Option α) :=
  match v.member? key with
  | none => some none
  | some u => (read u).map some

lemma nullable?_ofString? (text : Option String) :
    (ofString? text).nullable? text? = some text := by
  cases text <;> rfl

lemma nullable?_lineToJson (line : Option UInt64) :
    (lineToJson line).nullable? line? = some line := by
  cases line with
  | none => rfl
  | some line =>
      have hline : line? (ofNat line.toNat) = some line := by
        rw [line?, Node.lineOfValue_ofNat]
        rfl
      simp only [lineToJson, ofOption, ofNat, nullable?] at hline ⊢
      rw [hline]
      rfl

lemma list?_map {write : α → Value} {read : Value → Option α}
    (h : ∀ a, read (write a) = some a) (as : List α) :
    (array (as.map write)).list? read = some as := by
  induction as with
  | nil => rfl
  | cons a as ih =>
      rw [list?] at ih ⊢
      rw [List.map_cons, List.mapM_cons, h, ih]
      rfl

end Json.Value

open Json.Value (ofText text? boolean? line? list? nullable? required? optional?)

/-! ### Failures -/

/-- The frame that a value tells. -/
def Frame.ofJson? (v : Json.Value) : Option Frame := do
  let filename ← v.required? "filename" (nullable? text?)
  let line ← v.required? "line" (nullable? line?)
  some ⟨filename, line⟩

namespace Frame

lemma ofJson?_toJson (f : Frame) : ofJson? f.toJson = some f := by
  have hfilename : f.toJson.required? "filename" (nullable? text?) = some f.filename :=
    Json.Value.nullable?_ofString? f.filename
  have hline : f.toJson.required? "line" (nullable? line?) = some f.line :=
    Json.Value.nullable?_lineToJson f.line
  rw [ofJson?, hfilename, hline]
  rfl

lemma list?_listToJson (fs : List Frame) : (listToJson fs).list? ofJson? = some fs :=
  Json.Value.list?_map ofJson?_toJson fs

lemma fitsWords_lineToJson (line : Option UInt64) : (lineToJson line).FitsWords := by
  cases line with
  | none => exact trivial
  | some line => exact Node.fitsWords_ofNat line

lemma fitsWords_listToJson (fs : List Frame) : (listToJson fs).FitsWords := by
  rw [listToJson, Json.Value.FitsWords]
  induction fs with
  | nil => exact trivial
  | cons f fs ih =>
      obtain ⟨filename, line⟩ := f
      refine ⟨⟨?_, fitsWords_lineToJson line, trivial⟩, ih⟩
      cases filename <;> exact trivial

lemma depth_listToJson_le (fs : List Frame) : (listToJson fs).depth ≤ 2 := by
  rw [listToJson, Json.Value.depth_array_le_iff]
  refine ⟨1, rfl, List.forall_mem_map.2 fun f _ => ?_⟩
  obtain ⟨filename, line⟩ := f
  cases filename <;> cases line <;> exact Nat.le_refl 1

end Frame

namespace Failure

/-- The message, the rule and the frames that a value tells. -/
def ofJson? (v : Json.Value) : Option (String × Option String × List Frame) := do
  let message ← v.required? "message" text?
  let rule ← v.required? "rule" (nullable? text?)
  let frames ← v.required? "frames" (list? Frame.ofJson?)
  some (message, rule, frames)

/-- The message, the rule and the frames that a text tells. -/
def ofText? (text : String) : Option (String × Option String × List Frame) :=
  (ofText text).toOption.bind ofJson?

variable (e : Failure)

lemma ofJson?_toJson : ofJson? e.toJson = some (e.message, e.rule, e.frames) := by
  have hmessage : e.toJson.required? "message" text? = some e.message := rfl
  have hrule : e.toJson.required? "rule" (nullable? text?) = some e.rule :=
    Json.Value.nullable?_ofString? e.rule
  have hframes : e.toJson.required? "frames" (list? Frame.ofJson?) = some e.frames :=
    Frame.list?_listToJson e.frames
  rw [ofJson?, hmessage, hrule, hframes]
  rfl

lemma fitsWords_toJson : e.toJson.FitsWords := by
  refine ⟨trivial, ?_, Frame.fitsWords_listToJson e.frames, trivial⟩
  cases e.rule <;> exact trivial

lemma depth_toJson_le : e.toJson.depth ≤ 3 := by
  rw [toJson, Json.Value.depth_object_le_iff]
  refine ⟨2, rfl, ?_⟩
  simp only [List.forall_mem_cons, List.not_mem_nil, false_imp_iff, implies_true, and_true]
  refine ⟨Nat.zero_le 2, ?_, Frame.depth_listToJson_le e.frames⟩
  cases e.rule <;> exact Nat.zero_le 2

lemma isObjectLine_toJson : IsObjectLine e.toJson.compact.toList :=
  isObjectLine_compact e.fitsWords_toJson
    (show ["message", "rule", "frames"].Nodup by decide)

/-- A failure is read back from its compact text. -/
lemma ofText?_compact : ofText? e.toJson.compact = some (e.message, e.rule, e.frames) := by
  have hdepth : e.toJson.depth ≤ Json.Reader.maxLevels :=
    Nat.le_trans e.depth_toJson_le (by decide)
  rw [ofText?, Json.Value.ofText_compact e.fitsWords_toJson hdepth]
  exact e.ofJson?_toJson

end Failure

namespace Command

/-! ### Records -/

namespace Record

/-- The record that a value tells. -/
def ofJson? (v : Json.Value) : Option Record := do
  let file ← v.required? "file" text?
  let ok ← v.required? "ok" boolean?
  let message ← v.optional? "message" text?
  let rule ← v.optional? "rule" text?
  let error ← v.optional? "error" text?
  let frames ← v.required? "frames" (list? Frame.ofJson?)
  some ⟨file, ok, message, rule, error, frames⟩

/-- The record that a line tells. -/
def ofLine? (line : String) : Option Record := (ofText line).toOption.bind ofJson?

variable (r : Record)

lemma ofJson?_toJson : ofJson? r.toJson = some r := by
  obtain ⟨file, ok, message, rule, error, frames⟩ := r
  have hframes := Frame.list?_listToJson frames
  -- which members there are depends on which of three are missing
  cases message <;> cases rule <;> cases error <;>
    simp [ofJson?, toJson, optional, required?, optional?, Json.Value.member?, List.lookup_cons,
      text?, boolean?, hframes]

lemma fitsWords_toJson : r.toJson.FitsWords := by
  have hframes := Frame.fitsWords_listToJson r.frames
  obtain ⟨file, ok, message, rule, error, frames⟩ := r
  cases message <;> cases rule <;> cases error <;>
    simp [toJson, optional, Json.Value.FitsWords, Json.Value.MembersFitWords, hframes]

lemma depth_toJson_le : r.toJson.depth ≤ 3 := by
  have hoptional : ∀ name text, ∀ m ∈ optional name text, m.2.depth ≤ 2 := by
    intro name text
    cases text <;> simp [optional, Json.Value.depth]
  rw [toJson, Json.Value.depth_object_le_iff]
  refine ⟨2, rfl, ?_⟩
  simp only [List.forall_mem_append, List.forall_mem_cons, List.not_mem_nil, false_imp_iff,
    implies_true, and_true]
  exact ⟨⟨⟨⟨⟨Nat.zero_le 2, Nat.zero_le 2⟩, hoptional _ _⟩, hoptional _ _⟩, hoptional _ _⟩,
    Frame.depth_listToJson_le r.frames⟩

/-- A record is read back from its line. -/
lemma ofLine?_line : ofLine? r.line = some r := by
  have hdepth : r.toJson.depth ≤ Json.Reader.maxLevels :=
    Nat.le_trans r.depth_toJson_le (by decide)
  rw [ofLine?, line, Json.Value.ofText_compact r.fitsWords_toJson hdepth]
  exact r.ofJson?_toJson

lemma isObjectLine_line : IsObjectLine r.line.toList := by
  refine isObjectLine_compact r.fitsWords_toJson ?_
  obtain ⟨file, ok, message, rule, error, frames⟩ := r
  cases message <;> cases rule <;> cases error <;> simp [optional]

/-- What a record tells of the file `file` with the outcome `o`. -/
structure Tells (file : String) (o : Outcome) : Prop where
  file_eq : r.file = file
  ok_iff : r.ok = true ↔ o = .passed
  message_iff (message : String) :
    r.message = some message ↔ ∃ e, o = .failed e ∧ e.message = message
  rule_iff (rule : String) : r.rule = some rule ↔ ∃ e, o = .failed e ∧ e.rule = some rule
  error_iff (error : String) : r.error = some error ↔ o = .unreadable error
  frames_of_failed (e : Failure) : o = .failed e → r.frames = e.frames
  frames_of_not_failed : (∀ e, o ≠ .failed e) → r.frames = []

lemma tells_ofOutcome (file : String) (o : Outcome) : (ofOutcome file o).Tells file o := by
  cases o with
  | passed | unreadable =>
      constructor <;> simp [ofOutcome]
  | failed e =>
      constructor <;> simp [ofOutcome]

end Record

/-- Two outcomes are of one class and agree on what a record tells of them. -/
def Outcome.Alike : Outcome → Outcome → Prop
  | .passed, .passed => True
  | .failed e, .failed e' => e.message = e'.message ∧ e.rule = e'.rule ∧ e.frames = e'.frames
  | .unreadable error, .unreadable error' => error = error'
  | _, _ => False

namespace Record

/-- Lines differ when the files do, or the outcomes in anything that is written of them. -/
lemma line_eq_iff {file file' : String} {o o' : Outcome} :
    (ofOutcome file o).line = (ofOutcome file' o').line ↔ file = file' ∧ o.Alike o' := by
  have hrecord : (ofOutcome file o).line = (ofOutcome file' o').line ↔
      ofOutcome file o = ofOutcome file' o' := by
    constructor
    · intro h
      have hread := congrArg ofLine? h
      rwa [ofLine?_line, ofLine?_line, Option.some.injEq] at hread
    · exact congrArg line
  rw [hrecord]
  cases o <;> cases o' <;> simp [ofOutcome, Outcome.Alike]

end Record

/-! ### The output of a run -/

/-- Lines that each end with a line feed are told apart. -/
lemma splitOn_flatMap_newline {lines : List (List Char)} (h : ∀ l ∈ lines, '\n' ∉ l) :
    (lines.flatMap (· ++ ['\n'])).splitOn '\n' = lines ++ [[]] := by
  induction lines with
  | nil => rfl
  | cons l lines ih =>
      obtain ⟨hl, hlines⟩ := List.forall_mem_cons.1 h
      rw [List.flatMap_cons, List.append_assoc, List.singleton_append,
        List.splitOn_append_cons_self_of_not_mem hl, ih hlines, List.cons_append]

/-- The output of a run in JSON is a line for each report, in their order, and nothing else. -/
lemma toList_out_ofReports (render : Rendering) (coloured : Bool) {options : Options}
    (json : options.format = .json) (rs : List Report) :
    (Result.ofReports render coloured options rs).output.out.toList =
      (rs.map fun r => (Record.ofOutcome r.path r.outcome).line.toList).flatMap (· ++ ['\n']) := by
  rw [Result.out_ofReports, closing_of_json json, String.append_empty]
  simp only [Report.output_of_json _ json, String.toList_join, List.flatMap_map,
    String.toList_append]
  rfl

/-- The output of a run in JSON tells what became of each file, line by line. -/
lemma records_ofReports (render : Rendering) (coloured : Bool) {options : Options}
    (json : options.format = .json) (rs : List Report) :
    ∃ lines, (Result.ofReports render coloured options rs).output.out.toList.splitOn '\n' =
        lines ++ [[]] ∧
      lines.map (fun line => Record.ofLine? (String.ofList line)) =
        rs.map fun r => some (Record.ofOutcome r.path r.outcome) := by
  refine ⟨_, (congrArg _ (toList_out_ofReports render coloured json rs)).trans
    (splitOn_flatMap_newline ?_), ?_⟩
  · exact List.forall_mem_map.2 fun r _ => (Record.isObjectLine_line _).1.not_mem_newline
  · rw [List.map_map]
    exact List.map_congr_left fun r _ => by
      rw [Function.comp_apply, String.ofList_toList, Record.ofLine?_line]

/-- **Each file has one line of the JSON output to itself, and nothing is lost in it.**  For every
file and every outcome the record is an object on one line, and what is read back from the line is
the file, whether it passed, the message, the rule and the frames of a failure, and why the file
could not be read; so equal lines are about the same file and about outcomes that are alike.  The
output of a run is such a line for each report, in their order.  A failure by itself is an object on
one line, too, from which its message, rule and frames are read back. -/
theorem read_records :
    (∀ (file : String) (o : Outcome), IsObjectLine (Record.ofOutcome file o).line.toList ∧
      ∃ r, Record.ofLine? (Record.ofOutcome file o).line = some r ∧ r.Tells file o) ∧
    (∀ (file file' : String) (o o' : Outcome),
      (Record.ofOutcome file o).line = (Record.ofOutcome file' o').line ↔
        file = file' ∧ o.Alike o') ∧
    (∀ (render : Rendering) (coloured : Bool) (options : Options) (rs : List Report), ∃ lines,
      (Result.ofReports render coloured { options with format := .json }
          rs).output.out.toList.splitOn '\n' = lines ++ [[]] ∧
        lines.map (fun line => Record.ofLine? (String.ofList line)) =
          rs.map fun r => some (Record.ofOutcome r.path r.outcome)) ∧
    ∀ e : Failure, IsObjectLine e.toJson.compact.toList ∧
      Failure.ofText? e.toJson.compact = some (e.message, e.rule, e.frames) := by
  refine ⟨fun file o => ⟨Record.isObjectLine_line _, _, Record.ofLine?_line _,
    Record.tells_ofOutcome file o⟩, fun _ _ _ _ => Record.line_eq_iff, ?_, ?_⟩
  · intro render coloured options rs
    exact records_ofReports render coloured rfl rs
  · intro e
    exact ⟨e.isObjectLine_toJson, e.ofText?_compact⟩

end Command

end SheetCheck
