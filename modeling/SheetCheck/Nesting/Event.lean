import SheetCheck.Nesting.Rule

/-!
# The log of a check

Events in the order in which a check does things, and the lines that tell them.
-/

namespace SheetCheck

/-- Something that a check does. -/
inductive Event where
  /-- A node is looked at. -/
  | visited (tag : Tag) (line : UInt64)
  /-- A node breaks a rule in its container. -/
  | rejected (rule : Rule) (member container : Tag) (filename : Option String) (line : UInt64)
  /-- A failure takes on the source of a document. -/
  | attached (filename : Option String)
  /-- A failure leaves an import. -/
  | unwound (filename : Option String) (line : UInt64)
deriving DecidableEq, Repr

namespace Event

/-- The line that tells an event. -/
def text : Event → String
  | visited tag line => s!"TRACE visiting {tag.name} at line {line}"
  | rejected rule member container filename line =>
    let file := filename.getD "-"
    s!"DEBUG {rule.name} rejected {member.name} inside {container.name} at {file}:{line}"
  | attached filename =>
    let file := filename.getD "stdin"
    s!"DEBUG attaching source of {file}"
  | unwound filename line =>
    let file := filename.getD "-"
    s!"DEBUG unwinding through import at {file}:{line}"

/-- Whether an event only tells that a node was looked at. -/
def isVisit : Event → Bool
  | visited .. => true
  | _ => false

end Event

end SheetCheck
