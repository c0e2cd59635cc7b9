import SheetCheck.Node.Build
import SheetCheck.Proofs.Failure.Trace
import SheetCheck.Proofs.Nesting.Comparison

/-!
# Trees in which every node has a file

`Node.inFile` gives a file to all nodes of a tree that have none.  Nothing else changes, and once it
has been done there is nothing left to give (`Node.inFile_inFile`).  The occurrences are those of
the tree as it was, each with its nodes filed (`Node.occurrences_inFile`), so that the check comes
to the same verdict at the same place.

A frame takes a name from the nodes around it only if its own node has none.  In a tree of which
every node has a file no frame does, and each one tells the file of its own node
(`Occurrence.trace_inFile`).  `Nesting.check_inFile` puts the two together.
-/

namespace SheetCheck

open Nesting

namespace Node

variable (file : String) (n : Node)

lemma inFile_eq :
    n.inFile file =
      ⟨n.kind, n.children.map (inFile file), some (n.filename.getD file), n.line⟩ := by
  obtain ⟨kind, children, filename, line⟩ := n
  rw [inFile, inFileAll_eq_map]

@[simp] lemma kind_inFile : (n.inFile file).kind = n.kind := by rw [inFile_eq]

@[simp] lemma children_inFile : (n.inFile file).children = n.children.map (inFile file) := by
  rw [inFile_eq]

@[simp] lemma filename_inFile : (n.inFile file).filename = some (n.filename.getD file) := by
  rw [inFile_eq]

@[simp] lemma line_inFile : (n.inFile file).line = n.line := by rw [inFile_eq]

@[simp] lemma tag_inFile : (n.inFile file).tag = n.tag := by rw [tag, kind_inFile, tag]

/-- The first file that is given stays. -/
lemma inFile_inFile (first second : String) (n : Node) :
    (n.inFile first).inFile second = n.inFile first := by
  induction n using Node.induction with
  | step n ih =>
      have hchildren : (n.children.map (inFile first)).map (inFile second) =
          n.children.map (inFile first) := by
        rw [List.map_map]
        exact List.map_congr_left ih
      rw [inFile_eq second, children_inFile, hchildren, kind_inFile, filename_inFile, line_inFile,
        Option.getD_some, inFile_eq first]

end Node

namespace Occurrence

/-- The occurrence in the tree whose nodes have been given a file. -/
def inFile (file : String) (o : Occurrence) : Occurrence :=
  ⟨o.node.inFile file, o.above.map (Node.inFile file)⟩

variable (file : String) (n : Node) (o : Occurrence)

lemma inFile_top : (top n).inFile file = top (n.inFile file) := rfl

lemma inFile_under : (o.under n).inFile file = (o.inFile file).under (n.inFile file) := by
  simp only [inFile, under, List.map_append, List.map_singleton]

lemma tags_inFile : (o.inFile file).tags = o.tags := by
  have htags : ∀ ns : List Node, (ns.map (Node.inFile file)).map Node.tag = ns.map Node.tag := by
    intro ns
    rw [List.map_map]
    exact List.map_congr_left fun n _ => n.tag_inFile file
  exact htags (o.node :: o.above)

/-! ### Frames -/

lemma importsOf_inFile (above : List Node) :
    importsOf (above.map (Node.inFile file)) = (importsOf above).map (inFile file) := by
  have hchain : chain (above.map (Node.inFile file)) = (chain above).map (inFile file) := by
    induction above with
    | nil => rfl
    | cons n above ih => rw [List.map_cons, chain, chain, ih, List.map_cons, inFile]
  have himport : (fun a : Occurrence => decide (a.node.tag = .importSheet)) ∘ inFile file =
      fun a => decide (a.node.tag = .importSheet) := by
    funext a
    simp [inFile]
  rw [importsOf, importsOf, hchain, List.filter_map, himport]

/-- A node that has a file needs none from the nodes above it. -/
lemma frameFrom_inFile (beyond : Option String) :
    (o.inFile file).frameFrom beyond = ⟨some (o.node.filename.getD file), some o.node.line⟩ := by
  rw [frameFrom, inFile, Node.filename_inFile, Option.some_or, Node.line_inFile]

/-- Each frame has the file of its own node. -/
lemma trace_inFile (beyond : Option String) :
    (o.inFile file).trace beyond = (o :: importsOf o.above).map fun a =>
      ⟨some (a.node.filename.getD file), some a.node.line⟩ := by
  have hframe : frameFrom beyond ∘ inFile file =
      fun a => ⟨some (a.node.filename.getD file), some a.node.line⟩ := by
    funext a
    exact frameFrom_inFile file a beyond
  rw [trace, ← hframe, ← List.map_map, List.map_cons]
  exact congrArg (List.map _ <| o.inFile file :: ·) (importsOf_inFile file o.above)

lemma lines_raise_inFile (r : Rule) : ((o.inFile file).raise r).lines = (o.raise r).lines := by
  have himports : importLines (o.above.map (Node.inFile file)) = importLines o.above := by
    have himport : (fun n : Node => decide (n.tag = .importSheet)) ∘ Node.inFile file =
        fun n => decide (n.tag = .importSheet) := by
      funext n
      simp
    rw [importLines, List.filter_map, himport, List.map_map]
    exact List.map_congr_left fun n _ => by simp
  rw [lines_raise, lines_raise, inFile, himports, Node.line_inFile]

end Occurrence

namespace Node

variable (file : String)

lemma occurrencesAll_inFile {ns : List Node}
    (each : ∀ n ∈ ns, (n.inFile file).occurrences = n.occurrences.map (Occurrence.inFile file)) :
    occurrencesAll (ns.map (inFile file)) = (occurrencesAll ns).map (Occurrence.inFile file) := by
  induction ns with
  | nil => rfl
  | cons n ns ih =>
      rw [List.map_cons, occurrencesAll, occurrencesAll, each n List.mem_cons_self,
        ih fun m hm => each m (List.mem_cons_of_mem n hm), List.map_append]

/-- Filing a tree files each of its occurrences. -/
lemma occurrences_inFile (t : Node) :
    (t.inFile file).occurrences = t.occurrences.map (Occurrence.inFile file) := by
  induction t using Node.induction with
  | step t ih =>
      have hunder : Occurrence.under (t.inFile file) ∘ Occurrence.inFile file =
          Occurrence.inFile file ∘ Occurrence.under t := by
        funext o
        exact (Occurrence.inFile_under file t o).symm
      rw [occurrences_eq, occurrences_eq, children_inFile, occurrencesAll_inFile file ih,
        List.map_cons, List.map_map, List.map_map, hunder, Occurrence.inFile_top]

/-- The node `n'` is the node `n`, less its children, with the file `file` if it had none. -/
structure FiledAs (file : String) (n n' : Node) : Prop where
  kind_eq : n'.kind = n.kind
  line_eq : n'.line = n.line
  length_children : n'.children.length = n.children.length
  /-- A file that is there is kept. -/
  kept : ∀ own, n.filename = some own → n'.filename = some own
  /-- A file is given where there is none. -/
  given : n.filename = none → n'.filename = some file

lemma filedAs_inFile (n : Node) : n.FiledAs file (n.inFile file) where
  kind_eq := n.kind_inFile file
  line_eq := n.line_inFile file
  length_children := by rw [children_inFile, List.length_map]
  kept own hown := by rw [filename_inFile, hown, Option.getD_some]
  given hnone := by rw [filename_inFile, hnone, Option.getD_none]

end Node

/-- Two occurrences stand at the same place in two trees that differ in files only: of the nodes
from either one to the top, each is filed as its counterpart. -/
def Occurrence.FiledAs (file : String) (o o' : Occurrence) : Prop :=
  o.node.FiledAs file o'.node ∧ List.Forall₂ (Node.FiledAs file) o.above o'.above

lemma Occurrence.filedAs_inFile (file : String) (o : Occurrence) :
    o.FiledAs file (o.inFile file) := by
  refine ⟨o.node.filedAs_inFile file, ?_⟩
  rw [inFile, List.forall₂_map_right_iff]
  exact List.forall₂_same.2 fun n _ => n.filedAs_inFile file

namespace Nesting

/-- **Filing a tree.**  Node by node, a tree stays what it is, but every node without a file has
the one given; a file given later changes nothing.  Both trees are accepted, or both fail by the
same rule with the same message and the same lines.  In the tree that has been filed the frames
tell the file of the first breach itself and those of the imports above it, each its own. -/
theorem check_inFile (t : Node) (file other : String) :
    List.Forall₂ (Occurrence.FiledAs file) t.occurrences (t.inFile file).occurrences ∧
      (t.inFile file).inFile other = t.inFile file ∧
      Option.Rel
        (fun e e' => e'.rule = e.rule ∧ e'.message = e.message ∧
          e'.frames.length = e.frames.length ∧ e'.lines = e.lines ∧
          ∃ o r, FirstBreach none t o r ∧
            e'.frames = (o :: o.ancestors.filter fun a => a.node.tag = .importSheet).map fun a =>
              ⟨some (a.node.filename.getD file), some a.node.line⟩)
        (check t).failure (check (t.inFile file)).failure := by
  have hmatched : List.Forall₂ (fun o o' => o' = Occurrence.inFile file o) t.occurrences
      (t.inFile file).occurrences := by
    rw [Node.occurrences_inFile, List.forall₂_map_right_iff]
    exact List.forall₂_same.2 fun _ _ => rfl
  have hbreaks : ∀ {o o' : Occurrence}, o' = o.inFile file →
      ∀ r, o.Breaks none r ↔ o'.Breaks none r := by
    rintro o _ rfl r
    exact Occurrence.breaks_congr rfl (o.tags_inFile file).symm
  refine ⟨hmatched.imp ?_, Node.inFile_inFile file other t, rel_failure hmatched hbreaks ?_⟩
  · rintro o _ rfl
    exact o.filedAs_inFile file
  · rintro o _ r hfirst - rfl
    have hlines := o.lines_raise_inFile file r
    refine ⟨?_, ?_, ?_, hlines, o, r, hfirst, ?_⟩
    · rw [Occurrence.raise_rule, Occurrence.raise_rule]
    · rw [Occurrence.raise_message, Occurrence.raise_message]
      exact Rule.message_congr (o.node.kind_inFile file) r
    · simpa [Failure.lines] using congrArg List.length hlines
    · rw [Occurrence.frames_raise]
      exact o.trace_inFile file none

/-- A document that imports a comment with a file and, behind it, a misplaced property without
one. -/
def borrowingSheet : Node :=
  ⟨.root "", [⟨.importSheet "lib", [⟨.comment, [], some "_lib.scss", 1⟩,
    ⟨.property ⟨"color", .script "red", .new⟩, [], none, 2⟩], none, 3⟩], none, 1⟩

/-- The misplaced property borrows the file of the comment, unless the document is filed first. -/
theorem check_inFile_borrowingSheet :
    ∃ e e', (check borrowingSheet).failure = some e ∧
      (check (borrowingSheet.inFile "main.scss")).failure = some e' ∧
      e'.rule = e.rule ∧ e'.message = e.message ∧ e'.lines = e.lines ∧
      e.frames = [⟨some "_lib.scss", some 2⟩, ⟨none, some 3⟩] ∧
      e'.frames = [⟨some "main.scss", some 2⟩, ⟨some "main.scss", some 3⟩] := by
  obtain ⟨-, -, hrel⟩ := check_inFile borrowingSheet "main.scss" "other.scss"
  obtain ⟨e, he⟩ : ∃ e, (check borrowingSheet).failure = some e := ⟨_, rfl⟩
  obtain ⟨e', he'⟩ : ∃ e', (check (borrowingSheet.inFile "main.scss")).failure = some e' :=
    ⟨_, rfl⟩
  rw [he, he'] at hrel
  cases hrel with
  | some hrel =>
      obtain ⟨hrule, hmessage, -, hlines, -⟩ := hrel
      refine ⟨e, e', he, he', hrule, hmessage, hlines, ?_, ?_⟩
      · obtain rfl := Option.some.inj he
        rfl
      · obtain rfl := Option.some.inj he'
        rfl

end Nesting

end SheetCheck
