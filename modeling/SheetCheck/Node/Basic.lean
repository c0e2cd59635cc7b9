import SheetCheck.Node.Kind

/-!
# Stylesheet trees

A node knows the file it comes from, if that is known, and the line it starts on.  An import
holds the nodes of the imported file as its children.
-/

namespace SheetCheck

/-- A node of a stylesheet tree. -/
structure Node where
  kind : Kind
  children : List Node
  filename : Option String
  line : UInt64

namespace Node

mutual

/-- Whether two trees are equal. -/
def decideEq : (a b : Node) → Decidable (a = b)
  | ⟨kind, children, filename, line⟩, ⟨kind', children', filename', line'⟩ =>
    match decideEqAll children children' with
    | isFalse h => isFalse fun e => h (by cases e; rfl)
    | isTrue h =>
      if h' : kind = kind' ∧ filename = filename' ∧ line = line' then
        isTrue (by obtain ⟨rfl, rfl, rfl⟩ := h'; rw [h])
      else isFalse fun e => h' (by cases e; exact ⟨rfl, rfl, rfl⟩)

/-- Whether two lists of trees are equal. -/
def decideEqAll : (as bs : List Node) → Decidable (as = bs)
  | [], [] => isTrue rfl
  | [], _ :: _ => isFalse (by simp)
  | _ :: _, [] => isFalse (by simp)
  | a :: as, b :: bs =>
    match decideEq a b with
    | isFalse h => isFalse fun e => h (by cases e; rfl)
    | isTrue h =>
      match decideEqAll as bs with
      | isFalse h' => isFalse fun e => h' (by cases e; rfl)
      | isTrue h' => isTrue (by rw [h, h'])

end

instance : DecidableEq Node := decideEq

instance : Inhabited Node := ⟨⟨.comment, [], none, 0⟩⟩

/-- The kind of a node, without what belongs to it. -/
def tag (n : Node) : Tag := n.kind.tag

/-- The source text of a document, none for other nodes. -/
def template? (n : Node) : Option String :=
  match n.kind with
  | .root template => some template
  | _ => none

end Node

end SheetCheck
