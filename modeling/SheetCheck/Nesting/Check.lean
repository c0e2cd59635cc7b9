import SheetCheck.Failure.Basic
import SheetCheck.Nesting.Event
import SheetCheck.Nesting.Scope

/-!
# Checking a tree

The nodes of a tree are looked at in document order, each in its scope, up to the first that
breaks a rule.  The failure then travels outwards: every node on the way fills in its own place,
an import adds a frame, and a document attaches its source.
-/

namespace SheetCheck

/-- What a check did and how it ended. -/
structure Checked where
  /-- The events in their order. -/
  events : List Event
  /-- The violation, if there is one. -/
  failure : Option Failure

namespace Checked

/-- A check of nothing. -/
def nothing : Checked := ⟨[], none⟩

/-- Adds an event in front. -/
def after (event : Event) (c : Checked) : Checked := { c with events := event :: c.events }

/-- One check, and if it finds nothing another. -/
def andThen (c d : Checked) : Checked :=
  match c.failure with
  | some _ => c
  | none => ⟨c.events ++ d.events, d.failure⟩

/-- Passes a failure on its way out through `f`, which may add an event. -/
def outward (c : Checked) (f : Failure → List Event × Failure) : Checked :=
  match c.failure with
  | none => c
  | some e =>
    let (events, e) := f e
    ⟨c.events ++ events, some e⟩

end Checked

/-- The place of a node itself. -/
def Node.place (n : Node) : Frame := ⟨n.filename, some n.line⟩

/-- What a failure takes with it when it leaves the children of a node. -/
def Node.unwind (n : Node) (e : Failure) : List Event × Failure :=
  match n.kind with
  | .root template =>
    if template ≠ "" ∧ e.template = none then
      ([.attached n.filename], e.attach ⟨n.filename, template⟩)
    else ([], e)
  | .importSheet _ =>
    let e := match n.children with
      | [] => e
      | first :: _ => e.fill ⟨first.filename, none⟩
    ([.unwound n.filename n.line], e.addFrame n.place)
  | _ => ([], e)

namespace Nesting

/-- The rule that a node breaks in its scope, with its container. -/
def violation? (scope : Scope Node) (n : Node) : Option (Rule × Node) :=
  match scope with
  | none => none
  | some container => (Rule.broken? container.tag n.tag).map (·, container)

mutual

/-- Checks a tree in a scope. -/
def visit (scope : Scope Node) : Node → Checked
  | ⟨kind, children, filename, line⟩ =>
    let n : Node := ⟨kind, children, filename, line⟩
    let found : Checked :=
      match violation? scope n with
      | some (rule, container) =>
        ⟨[.rejected rule n.tag container.tag filename line],
          some ((Failure.new (rule.message n)).withRule rule.name)⟩
      | none => (visitAll (scope.enter n.tag n) children).outward n.unwind
    (found.after (.visited n.tag line)).outward fun e => ([], e.fill n.place)

/-- Checks trees one after the other, up to the first violation. -/
def visitAll (scope : Scope Node) : List Node → Checked
  | [] => .nothing
  | n :: ns => (visit scope n).andThen (visitAll scope ns)

end

/-- Checks a whole document. -/
def check (document : Node) : Checked := visit none document

end Nesting

end SheetCheck
