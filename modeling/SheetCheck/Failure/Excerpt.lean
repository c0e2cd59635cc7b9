import SheetCheck.Failure.Backtrace
import SheetCheck.Text.Lines

/-!
# What a report of a failure is made of

A code that names the rule, the chain of imports as help, and an excerpt of the source.  The
source is shown only when the violation lies in the very file that the source belongs to, and
its line is marked when the source has such a line.  How all this is drawn is not said here.
-/

namespace SheetCheck

/-- A mark in a source text. -/
structure Label where
  text : String
  span : Text.Span
deriving DecidableEq, Repr

/-- What there is to report of a failure. -/
structure Diagnosis where
  message : String
  code : Option String
  help : Option String
  source : Option Template
  label : Option Label
deriving DecidableEq, Repr

/-- The name under which a source is shown. -/
def Template.name (t : Template) : String := t.filename.getD "stdin"

/-- The span to mark for a line, which is at least one byte long. -/
def Template.mark? (t : Template) (line : UInt64) : Option Text.Span :=
  (Text.lineSpan t.text.toList line.toNat).map fun s => { s with length := max s.length 1 }

namespace Failure

/-- The code of a failure. -/
def code? (e : Failure) : Option String :=
  e.rule.map ("nesting::" ++ ·)

/-- The chain of imports, as advice. -/
def help? (e : Failure) : Option String :=
  match e.imports with
  | [] => none
  | fs => some <| "\n".intercalate <| fs.map fun f =>
    let file := f.filename.getD "an unknown file"
    s!"imported from line {f.lineText} of {file}"

/-- The source and the line in it, if the violation lies in the file of the source. -/
def excerpt? (e : Failure) : Option (Template × UInt64) :=
  match e.template, e.origin.line with
  | some t, some line => if e.origin.filename = t.filename then some (t, line) else none
  | _, _ => none

/-- The source to show. -/
def source? (e : Failure) : Option Template :=
  e.excerpt?.map (·.1)

/-- The mark to show in the source. -/
def label? (e : Failure) : Option Label :=
  e.excerpt?.bind fun (t, line) =>
    (t.mark? line).map fun span =>
      ⟨String.ofList (Text.firstLine e.message.toList), span⟩

/-- All that a report of a failure is drawn from. -/
def diagnosis (e : Failure) : Diagnosis := ⟨e.message, e.code?, e.help?, e.source?, e.label?⟩

end Failure

end SheetCheck
