import SheetCheck.Command.Inputs
import SheetCheck.Failure.Encode
import SheetCheck.Nesting.Check
import SheetCheck.Node.OfText

/-!
# The outcome for one file

A file passes, or it fails, or it cannot be read as a tree.  `Record` is the outcome in the form
of one JSON object.
-/

namespace SheetCheck.Command

/-- The outcome of the check of one file. -/
inductive Outcome where
  | passed
  | failed (e : Failure)
  /-- There is no tree to check; `error` says why. -/
  | unreadable (error : String)

/-- Why a file holds no tree that can be checked. -/
inductive LoadFault where
  | read (fault : ReadFault)
  | parse (refusal : Json.Refusal)

/-- The words for a fault of the file at `path`. -/
def LoadFault.message (path : String) : LoadFault → String
  | read fault => s!"failed to read '{path}': {fault.message}"
  | parse refusal => s!"'{path}' is not a valid stylesheet tree: {refusal.message}"

/-- The tree in a file. -/
def Source.load (s : Source) : Except LoadFault Node := do
  let content ← s.content.mapError .read
  match String.fromUTF8? content with
  | none => .error (.read .notText)
  | some text => (Node.ofText text).mapError .parse

namespace Outcome

/-- The outcome of a check. -/
def ofChecked (c : Checked) : Outcome :=
  match c.failure with
  | none => passed
  | some e => failed e

end Outcome

/-- What became of one file. -/
structure Report where
  path : String
  outcome : Outcome
  /-- The events of the check. -/
  events : List Event

/-- Checks one file. -/
def Source.check (s : Source) : Report :=
  match s.load with
  | .ok tree =>
    let c := Nesting.check tree
    ⟨s.path, .ofChecked c, c.events⟩
  | .error fault => ⟨s.path, .unreadable (fault.message s.path), []⟩

/-- The outcome for a file as it is written in JSON. -/
structure Record where
  file : String
  ok : Bool
  message : Option String
  rule : Option String
  error : Option String
  frames : List Frame
deriving DecidableEq, Repr

namespace Record

/-- The record of an outcome. -/
def ofOutcome (file : String) : Outcome → Record
  | .passed => ⟨file, true, none, none, none, []⟩
  | .failed e => ⟨file, false, some e.message, e.rule, none, e.frames⟩
  | .unreadable error => ⟨file, false, none, none, some error, []⟩

/-- A member that is left out when it is missing. -/
def optional (name : String) : Option String → List (String × Json.Value)
  | none => []
  | some text => [(name, .string text)]

/-- A record as JSON. -/
def toJson (r : Record) : Json.Value :=
  .object <| [("file", .string r.file), ("ok", .boolean r.ok)] ++ optional "message" r.message ++
    optional "rule" r.rule ++ optional "error" r.error ++ [("frames", Frame.listToJson r.frames)]

/-- The line for a record. -/
def line (r : Record) : String := r.toJson.compact

end Record

end SheetCheck.Command
