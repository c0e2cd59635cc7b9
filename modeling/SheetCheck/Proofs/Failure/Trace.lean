import SheetCheck.Proofs.Failure.Fill
import SheetCheck.Proofs.Nesting.FirstBreach

/-!
# The trace of a failure in closed form

A failure that leaves a tree has one frame for the node that breaks a rule, and one more for each
of the imports above it.  All frames know their line.  A frame whose node has no file name takes
one from the nodes above it: `Node.settles` tells what each of them decides, and the first
decision on the way out stands.

While the failure travels, the frames that can still be filled are those whose scan has come to no
decision yet.  So the frames of a failure on its way are described with the file name that is
still to come from *beyond* as a parameter, and what a node does is to supply that name
(`Occurrence.trace_under`, `Frame.fillAll_trace`).  With nothing left to come the frames of a
failure are the trace of the occurrence that raised it (`Occurrence.frames_raise`).
-/

namespace SheetCheck

/-- What a node decides about the file of a frame further in that has no name yet: a file name,
that there is none, or nothing.  A node that is no import lends its own name.  An import lends
the name of its first child, and if that has none, its own name shuts out all that come after. -/
def Node.settles (n : Node) : Option (Option String) :=
  if n.tag = .importSheet then
    match n.children.head?.bind (·.filename) with
    | some file => some (some file)
    | none => if n.filename.isSome then some none else none
  else n.filename.map some

/-- The file that the nodes above lend to a frame without a name: the first decision counts, and
without any it is the file that comes from beyond them. -/
def fileFrom (beyond : Option String) (above : List Node) : Option String :=
  (above.findSome? Node.settles).getD beyond

namespace Occurrence

/-- The frame for an occurrence. -/
def frameFrom (beyond : Option String) (o : Occurrence) : Frame :=
  ⟨o.node.filename.or (fileFrom beyond o.above), some o.node.line⟩

/-- The imports among the nodes of a list in which each stands below the next ones. -/
def importsOf (above : List Node) : List Occurrence :=
  (chain above).filter fun a => a.node.tag = .importSheet

/-- The frames for an occurrence and for the imports above it, the innermost first. -/
def trace (beyond : Option String) (o : Occurrence) : List Frame :=
  (o :: importsOf o.above).map (frameFrom beyond)

end Occurrence

/-! ### What a node decides -/

namespace Node

variable {n : Node}

lemma filename_of_settles_eq_none (h : n.settles = none) : n.filename = none := by
  unfold settles at h
  split at h
  · split at h
    · exact absurd h (by simp)
    · split at h
      · exact absurd h (by simp)
      · next hnone => simpa using hnone
  · simpa using h

/-- Only an import with a name shuts out what comes after. -/
lemma of_settles_eq_some_none (h : n.settles = some none) :
    n.tag = .importSheet ∧ n.filename ≠ none := by
  unfold settles at h
  split at h
  · next htag =>
      refine ⟨htag, ?_⟩
      split at h
      · exact absurd h (by simp)
      · split at h
        · next hsome => exact Option.isSome_iff_ne_none.1 hsome
        · exact absurd h (by simp)
  · simp at h

lemma settles_getD_of_not_import (h : n.tag ≠ .importSheet) : n.settles.getD none = n.filename := by
  rw [settles, if_neg h]
  cases n.filename <;> rfl

lemma settles_getD_of_import (h : n.tag = .importSheet) :
    n.settles.getD none = n.children.head?.bind (·.filename) := by
  rw [settles, if_pos h]
  split
  · next hfile => rw [hfile]; rfl
  · next hfile =>
      rw [hfile]
      split <;> rfl

end Node

lemma fileFrom_concat (beyond : Option String) (above : List Node) (n : Node) :
    fileFrom beyond (above ++ [n]) = fileFrom (n.settles.getD beyond) above := by
  rw [fileFrom, List.findSome?_append, List.findSome?_singleton, Option.getD_or, fileFrom]

namespace Occurrence

lemma frameFrom_top (n : Node) : (top n).frameFrom none = n.place := by
  rw [frameFrom, Node.place]
  simp [fileFrom]

lemma frameFrom_under (beyond : Option String) (n : Node) (o : Occurrence) :
    (o.under n).frameFrom beyond = o.frameFrom (n.settles.getD beyond) := by
  rw [frameFrom, frameFrom, under_above, fileFrom_concat, under_node]

/-- Seen from one level further out, a trace gets from beyond what the added node decides; if
that is an import, it has a frame of its own. -/
lemma trace_under (n : Node) (o : Occurrence) :
    (o.under n).trace none =
      o.trace (n.settles.getD none) ++ if n.tag = .importSheet then [n.place] else [] := by
  have himports : importsOf (o.above ++ [n]) =
      (importsOf o.above).map (under n) ++ if n.tag = .importSheet then [top n] else [] := by
    rw [importsOf, chain_concat, List.filter_append, List.filter_map]
    congr 1
    by_cases h : n.tag = .importSheet <;> simp [h]
  have hframes : frameFrom none ∘ under n = frameFrom (n.settles.getD none) := by
    funext a
    exact frameFrom_under none n a
  rw [trace, under_above, himports, List.map_cons, List.map_append, List.map_map, hframes,
    frameFrom_under, trace, List.map_cons, List.cons_append]
  congr 2
  by_cases h : n.tag = .importSheet <;> simp [h, frameFrom_top]

/-! ### Which frames can still be filled -/

/-- As long as nothing is decided, no import on the way has a name. -/
lemma unnamed_of_undecided {above : List Node} (h : above.findSome? Node.settles = none) :
    ∀ f ∈ (importsOf above).map (frameFrom none), f.filename = none := by
  intro f hf
  obtain ⟨a, ha, rfl⟩ := List.mem_map.1 hf
  obtain ⟨inner, rfl⟩ := mem_chain_iff.1 (List.mem_filter.1 ha).1
  rw [List.findSome?_append, Option.or_eq_none_iff, List.findSome?_cons] at h
  obtain ⟨-, h⟩ := h
  cases hsettles : a.node.settles with
  | some file => simp [hsettles] at h
  | none =>
      simp only [hsettles] at h
      simp [frameFrom, fileFrom, Node.filename_of_settles_eq_none hsettles, h]

/-- When it is decided that there is no name, an import on the way has one. -/
lemma named_of_decided_none {above : List Node} (h : above.findSome? Node.settles = some none) :
    ∃ f ∈ (importsOf above).map (frameFrom none), f.filename ≠ none := by
  obtain ⟨inner, n, outer, rfl, hn, -⟩ := List.findSome?_eq_some_iff.1 h
  obtain ⟨htag, hname⟩ := Node.of_settles_eq_some_none hn
  refine ⟨frameFrom none ⟨n, outer⟩, List.mem_map_of_mem (List.mem_filter.2 ⟨?_, ?_⟩), ?_⟩
  · exact mem_chain_iff.2 ⟨inner, rfl⟩
  · simpa using htag
  · simp [frameFrom, hname]

/-- What reaches a frame past the imports above it is what comes from beyond. -/
lemma frameFrom_or_rest (g : Frame) (o : Occurrence) :
    (o.frameFrom none).or (Frame.fillAll g ((importsOf o.above).map (frameFrom none))).2 =
      o.frameFrom g.filename := by
  simp only [frameFrom, Frame.or, Option.some_or, Frame.mk.injEq, and_true]
  rw [Option.or_assoc]
  congr 1
  cases h : o.above.findSome? Node.settles with
  | none => simp [fileFrom, h, Frame.isField_filename.rest_of_missing g (unnamed_of_undecided h)]
  | some decision =>
      cases decision with
      | some file => simp [fileFrom, h]
      | none =>
          simp [fileFrom, h, Frame.isField_filename.rest_of_present g (named_of_decided_none h)]

end Occurrence

namespace Frame

open Occurrence

lemma fillAll_importsOf (g : Frame) (above : List Node) :
    (fillAll g ((importsOf above).map (frameFrom none))).1 =
      (importsOf above).map (frameFrom g.filename) := by
  induction above with
  | nil => rfl
  | cons n above ih =>
      rw [importsOf, chain, List.filter_cons]
      split
      · -- the frame of this import takes what the ones above it leave
        rw [List.map_cons, List.map_cons, fillAll]
        change ((⟨n, above⟩ : Occurrence).frameFrom none).or _ :: _ = _
        exact congrArg₂ List.cons (frameFrom_or_rest g ⟨n, above⟩) ih
      · exact ih

/-- Filling a trace supplies the file name from beyond. -/
lemma fillAll_trace (g : Frame) (o : Occurrence) :
    (fillAll g (o.trace none)).1 = o.trace g.filename := by
  -- the frame of the occurrence itself, and those of the imports above it
  rw [trace, List.map_cons, fillAll]
  exact congrArg₂ List.cons (frameFrom_or_rest g o) (fillAll_importsOf g o.above)

end Frame

/-! ### The way out -/

/-- The frames of a failure are the trace of the occurrence that raised it. -/
theorem Occurrence.frames_raise (o : Occurrence) (r : Rule) :
    (o.raise r).frames = o.trace none := by
  induction o using Occurrence.induction with
  | top n =>
      rw [raise_top, Failure.frames_fill, Failure.frames_withRule, Failure.frames_new]
      change [(Frame.unknown).or n.place] = [(top n).frameFrom none]
      rw [frameFrom_top]
      simp [Frame.or, Frame.unknown, Node.place]
  | under n o ih =>
      rw [raise_under, trace_under]
      by_cases h : n.tag = .importSheet
      · rw [Node.frames_leave_of_import _ h, ih, Frame.fillAll_trace, if_pos h,
          Node.settles_getD_of_import h]
      · rw [Node.frames_leave_of_not_import _ h, ih, Frame.fillAll_trace, if_neg h,
          Node.settles_getD_of_not_import h, List.append_nil, Node.place]

/-! ### The lines of a trace -/

/-- The lines of the frames of a failure, the innermost first. -/
def Failure.lines (e : Failure) : List (Option UInt64) := e.frames.map (·.line)

/-- The lines of the imports among some nodes. -/
def importLines (above : List Node) : List (Option UInt64) :=
  (above.filter fun n => n.tag = .importSheet).map fun n => some n.line

lemma Occurrence.map_line_importsOf (beyond : Option String) (above : List Node) :
    ((importsOf above).map (frameFrom beyond)).map Frame.line = importLines above := by
  induction above with
  | nil => rfl
  | cons n above ih =>
      rw [importsOf, importLines, chain, List.filter_cons, List.filter_cons]
      split
      · exact congrArg (some n.line :: ·) ih
      · exact ih

/-- The lines do not depend on file names: they are those of the node and of the imports above. -/
lemma Occurrence.lines_raise (o : Occurrence) (r : Rule) :
    (o.raise r).lines = some o.node.line :: importLines o.above := by
  rw [Failure.lines, frames_raise, trace, List.map_cons, List.map_cons]
  exact congrArg (some o.node.line :: ·) (map_line_importsOf none o.above)

namespace Nesting

/-- **The frames of a failure.**  When a check fails, the first frame is that of the first breach,
and one frame follows for each import above it, the innermost first.  Every frame has the line of
its node, and the node's own file name, or the one that the nodes above it lend. -/
theorem visit_frames {scope : Scope Node} {t : Node} {e : Failure}
    (h : (visit scope t).failure = some e) :
    ∃ o r, FirstBreach scope t o r ∧
      e.frames = (o :: o.ancestors.filter fun a => a.node.tag = .importSheet).map
        (Occurrence.frameFrom none) := by
  obtain ⟨o, r, hfirst, rfl⟩ := visit_failure_eq_some_iff.1 h
  exact ⟨o, r, hfirst, o.frames_raise r⟩

/-- An import within an import.  The inner one has a name and its children have none. -/
def nestedImports : Node :=
  ⟨.root "", [⟨.importSheet "a", [⟨.comment, [], some "a.scss", 1⟩,
    ⟨.importSheet "b", [⟨.ifBranch, [⟨.extend "c", [], none, 4⟩], none, 2⟩], some "a.scss", 7⟩],
    none, 3⟩], some "main.scss", 1⟩

/-- The name of the inner import shuts out the frame of the misplaced node, while the outer import
takes the name of the document. -/
theorem visit_frames_nestedImports :
    ∃ e, (visit none nestedImports).failure = some e ∧
      e.frames = [⟨none, some 4⟩, ⟨some "a.scss", some 7⟩, ⟨some "main.scss", some 3⟩] ∧
      ∃ o r, FirstBreach none nestedImports o r ∧
        e.frames = (o :: o.ancestors.filter fun a => a.node.tag = .importSheet).map
          (Occurrence.frameFrom none) := by
  refine ⟨_, rfl, rfl, visit_frames rfl⟩

end Nesting

end SheetCheck
