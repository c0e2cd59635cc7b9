import SheetCheck.Node.Payload

/-!
# The members of a node, one by one

A node is read member by member, in any order.  `Met` holds the members that have been met, of
which only the kind must be there in the end.
-/

namespace SheetCheck

open Json (Cause)

namespace Node

/-- The words for a node. -/
def wanted : String := "struct Node"

/-- The words for the items of a node. -/
def wantedItems : String := "struct Node with 4 elements"

/-- The members of a node that have been met. -/
structure Met where
  kind : Option Kind
  children : Option (List Node)
  filename : Option (Option String)
  line : Option UInt64

namespace Met

/-- No members yet. -/
def nothing : Met := ⟨none, none, none, none⟩

/-- Whether the member with a name has been met. -/
def has (met : Met) (key : String) : Bool :=
  key = "kind" && met.kind.isSome || key = "children" && met.children.isSome ||
    key = "filename" && met.filename.isSome || key = "line" && met.line.isSome

/-- The node, which needs its kind; all else may be left out. -/
def node (met : Met) : Except Cause Node :=
  match met.kind with
  | some kind => .ok ⟨kind, met.children.getD [], met.filename.getD none, met.line.getD 0⟩
  | none => .error (.missingField "kind")

end Met

/-- The line that a number tells. -/
def lineOf : Json.Number → Except Cause UInt64
  | .integer n =>
    if 0 ≤ n ∧ n < UInt64.size then .ok (UInt64.ofNat n.toNat)
    else .error (.wrongValue (.number (.integer n)) "usize")
  | n => .error (.wrongType (.number n) "usize")

end Node

end SheetCheck
