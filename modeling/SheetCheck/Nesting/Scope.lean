import SheetCheck.Node.Basic

/-!
# Scopes

A scope is the container that a node is checked against: its nearest ancestor that is not
transparent.  At the top of a tree there is none.
-/

namespace SheetCheck

/-- The container that a node is checked against, if there is one. -/
abbrev Scope (α : Type) := Option α

/-- The scope inside `here`, which has the tag `tag`: transparent nodes are seen through. -/
def Scope.enter (scope : Scope α) (tag : Tag) (here : α) : Scope α :=
  if tag.isTransparent then scope else some here

@[simp] theorem Scope.enter_of_isTransparent {scope : Scope α} {tag : Tag} {here : α}
    (h : tag.isTransparent = true) : scope.enter tag here = scope := by
  simp [Scope.enter, h]

@[simp] theorem Scope.enter_of_not_isTransparent {scope : Scope α} {tag : Tag} {here : α}
    (h : tag.isTransparent = false) : scope.enter tag here = some here := by
  simp [Scope.enter, h]

end SheetCheck
