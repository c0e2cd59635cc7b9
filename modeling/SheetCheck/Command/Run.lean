import SheetCheck.Command.Arguments
import SheetCheck.Command.Outcome
import SheetCheck.Failure.Excerpt

/-!
# A run

Every file is checked and reported for itself.  Status lines, a summary and the JSON objects go
to the standard output, what is said about failures goes to the standard error, and so does the
log, if one is asked for.  A run ends with 2 when some file could not be read, otherwise with 1
when some file failed, otherwise with 0.  When a directory cannot be listed, a run ends with 2 and
says nothing else.

How the report of a failure is drawn for readers depends on the terminal.  A run is given a
`Rendering` for this, and hands it what there is to report.
-/

namespace SheetCheck.Command

/-- What a run writes. -/
structure Output where
  out : String
  err : String
deriving DecidableEq, Repr

namespace Output

/-- Nothing. -/
def empty : Output := ⟨"", ""⟩

/-- One output after the other, on each of the two channels. -/
def append (a b : Output) : Output := ⟨a.out ++ b.out, a.err ++ b.err⟩

instance : Append Output := ⟨append⟩

/-- Outputs one after the other. -/
def join (os : List Output) : Output := os.foldl append empty

end Output

/-- How a run ends. -/
structure Result where
  code : Nat
  output : Output
deriving DecidableEq, Repr

/-- The colours of a terminal that are used. -/
inductive Colour where
  | red
  | green
  | yellow

namespace Colour

/-- The number of a colour of the foreground. -/
def number : Colour → Nat
  | red => 31
  | green => 32
  | yellow => 33

/-- A bold text in a colour, where the terminal has colours. -/
def paint (coloured : Bool) (c : Colour) (text : String) : String :=
  if coloured then
    let escape (n : Nat) : String := s!"\x1b[{n}m"
    escape 0 ++ escape 1 ++ escape c.number ++ text ++ escape 0
  else text

end Colour

namespace Outcome

/-- The word for an outcome. -/
def label : Outcome → String
  | passed => "ok"
  | failed _ => "FAILED"
  | unreadable _ => "ERROR"

/-- The colour of the word. -/
def colour : Outcome → Colour
  | passed => .green
  | failed _ => .red
  | unreadable _ => .yellow

/-- The status line for a file. -/
def statusLine (coloured : Bool) (path : String) (o : Outcome) : String :=
  o.colour.paint coloured o.label ++ " " ++ path ++ "\n"

end Outcome

/-- The numbers of files with each outcome. -/
structure Summary where
  passed : Nat
  failed : Nat
  unreadable : Nat
deriving DecidableEq, Repr

namespace Summary

/-- No files. -/
def zero : Summary := ⟨0, 0, 0⟩

/-- One more file. -/
def add (s : Summary) : Outcome → Summary
  | .passed => { s with passed := s.passed + 1 }
  | .failed _ => { s with failed := s.failed + 1 }
  | .unreadable _ => { s with unreadable := s.unreadable + 1 }

/-- The numbers for some outcomes. -/
def of (os : List Outcome) : Summary := os.foldl add zero

/-- The exit code of a run. -/
def exitCode (s : Summary) : Nat :=
  if 0 < s.unreadable then 2 else if 0 < s.failed then 1 else 0

/-- The words for the numbers. -/
def text (s : Summary) : String :=
  let unreadable := if 0 < s.unreadable then s!", {s.unreadable} unreadable" else ""
  s!"{s.passed} passed, {s.failed} failed" ++ unreadable

/-- The last line of a run. -/
def line (coloured : Bool) (s : Summary) : String :=
  let colour : Colour := if s.failed = 0 ∧ s.unreadable = 0 then .green else .red
  colour.paint coloured (s.text ++ "\n")

end Summary

/-- How reports of failures are drawn for readers. -/
abbrev Rendering := Diagnosis → String

/-- What is said about an outcome apart from its status line. -/
def remark (render : Rendering) (format : Format) (default : String) : Outcome → String
  | .passed => ""
  | .failed e =>
    match format with
    | .trace => e.backtrace default ++ "\n"
    | _ => render e.diagnosis ++ "\n"
  | .unreadable error => s!"Error: {error}\n"

/-- Lines of the log, which is kept on request only. -/
def logText (options : Options) (lines : List String) : String :=
  if options.verbose then String.join (lines.map (· ++ "\n")) else ""

/-- The line of the log for an outcome. -/
def Outcome.logLine? (path : String) : Outcome → Option String
  | passed => none
  | failed e => some s!"DEBUG {path} failed: {e.message}"
  | unreadable error => some s!"DEBUG skipping {path}: {error}"

namespace Report

/-- The log of a check, less the nodes that were only looked at, and the line for its outcome. -/
def logLines (r : Report) : List String :=
  (r.events.filter (!·.isVisit)).map Event.text ++ (r.outcome.logLine? r.path).toList

/-- What is written about one file. -/
def output (render : Rendering) (coloured : Bool) (options : Options) (r : Report) : Output :=
  let log := logText options r.logLines
  match options.format with
  | .json => ⟨(Record.ofOutcome r.path r.outcome).line ++ "\n", log⟩
  | format =>
    ⟨r.outcome.statusLine coloured r.path,
      log ++ remark render format options.defaultFilename r.outcome⟩

end Report

/-- What became of the files that some paths stand for, in their order. -/
def reports (lookup : Lookup) (paths : List String) : Except WalkFault (List Report) :=
  (sources lookup paths).map (·.map Source.check)

/-- The numbers of reports with each outcome. -/
def Summary.ofReports (rs : List Report) : Summary :=
  .of (rs.map (·.outcome))

/-- What is written before the first file is checked. -/
def opening (options : Options) (count : Nat) : Output :=
  ⟨"", logText options [s!"INFO checking {count} tree file(s)"]⟩

/-- What is written below the status lines. -/
def closing (coloured : Bool) (format : Format) (s : Summary) : Output :=
  match format with
  | .json => .empty
  | _ => ⟨s.line coloured, ""⟩

/-- The result for the reports on all files. -/
def Result.ofReports (render : Rendering) (coloured : Bool) (options : Options)
    (rs : List Report) : Result :=
  let s := Summary.ofReports rs
  ⟨s.exitCode, opening options rs.length ++ .join (rs.map (·.output render coloured options)) ++
    closing coloured options.format s⟩

/-- The result when it cannot be told which files are meant. -/
def WalkFault.result (f : WalkFault) : Result := ⟨2, ⟨"", s!"Error: {f.message}\n"⟩⟩

/-- Checks all files that the paths stand for; none is checked before all are known. -/
def check (render : Rendering) (lookup : Lookup) (coloured : Bool) (options : Options) : Result :=
  match reports lookup options.paths with
  | .ok rs => .ofReports render coloured options rs
  | .error fault => fault.result

/-- The name and the number of the version. -/
def versionLine : String := "sass-nesting 0.1.0\n"

/-- How the program is used. -/
def usage : String :=
  "Checks parsed Sass stylesheet trees for illegal nesting.\n\n" ++
  "Usage: sass-nesting [-v] check [--format human|trace|json] [--default-filename NAME] PATHS...\n"

/-- The result when there is nothing to check. -/
def Ending.result : Ending → Result
  | help => ⟨0, ⟨usage, ""⟩⟩
  | version => ⟨0, ⟨versionLine, ""⟩⟩
  | misuse m => ⟨2, ⟨"", s!"error: {m.message}\n\n" ++ usage⟩⟩

/-- Runs the program with some arguments. -/
def run (render : Rendering) (lookup : Lookup) (coloured : Bool) (args : List String) : Result :=
  match Options.ofArguments args with
  | .ok options => check render lookup coloured options
  | .error ending => ending.result

end SheetCheck.Command
