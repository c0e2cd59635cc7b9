import SheetCheck.Node.Basic

/-!
# Building trees

A node is built from its kind and its line, without children and file; a document starts on
line one.  The remaining functions add to a tree that has been built.
-/

namespace SheetCheck.Node

/-- A node without children on a line. -/
def leaf (kind : Kind) (line : UInt64) : Node := ⟨kind, [], none, line⟩

/-- A document with its source text. -/
def document (template : String) : Node := leaf (.root template) 1

/-- A property in the new style. -/
def declare (name : String) (value : PropertyValue) (line : UInt64) : Node :=
  leaf (.property ⟨name, value, .new⟩) line

/-- The node with a child added at the end. -/
def withChild (n child : Node) : Node :=
  { n with children := n.children ++ [child] }

/-- The node with other children. -/
def withChildren (n : Node) (children : List Node) : Node :=
  { n with children }

/-- The node with another style of declaration; only a property has one. -/
def withStyle (n : Node) (style : Style) : Node :=
  match n.kind with
  | .property p => { n with kind := .property { p with style } }
  | _ => n

mutual

/-- The tree in which every node without a file comes from `file`. -/
def inFile (file : String) : Node → Node
  | ⟨kind, children, filename, line⟩ =>
    ⟨kind, inFileAll file children, some (filename.getD file), line⟩

/-- The trees in which every node without a file comes from `file`. -/
def inFileAll (file : String) : List Node → List Node
  | [] => []
  | n :: ns => inFile file n :: inFileAll file ns

end

theorem inFileAll_eq_map (file : String) (ns : List Node) :
    inFileAll file ns = ns.map (inFile file) := by
  induction ns with
  | nil => rfl
  | cons n ns ih => rw [inFileAll, ih, List.map_cons]

end SheetCheck.Node
