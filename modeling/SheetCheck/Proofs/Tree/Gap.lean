import SheetCheck.Node.Build
import SheetCheck.Proofs.Tree.Occurrence

/-!
# Gaps in a tree

A gap is a tree that lacks some neighbours among the children of one of its nodes, at any depth.
Filling it in two ways gives two trees that differ in one place, and the place is known even when
equal nodes stand elsewhere: of the occurrences of the filled tree, some stand before the gap in
document order, some in it, and some after it (`Gap.occurrences_fill`).  The nodes above the gap
change with what it holds, but only as far as their children are concerned.

Every choice of neighbours in a tree leaves a gap (`Node.exists_gap`).
-/

namespace SheetCheck

/-- A node that lacks some neighbours among its children. -/
structure Shell where
  kind : Kind
  before : List Node
  after : List Node
  filename : Option String
  line : UInt64

/-- The node with children in the place of those that it lacks. -/
def Shell.fill (s : Shell) (ns : List Node) : Node :=
  ⟨s.kind, s.before ++ ns ++ s.after, s.filename, s.line⟩

/-- A node that lacks all its children. -/
def Node.shell (n : Node) : Shell := ⟨n.kind, [], [], n.filename, n.line⟩

@[simp] lemma Node.fill_shell (n : Node) (ns : List Node) :
    n.shell.fill ns = n.withChildren ns := by
  simp [shell, Shell.fill, withChildren]

/-- The occurrence as it is seen with some more nodes above it. -/
def Occurrence.over (outer : List Node) (o : Occurrence) : Occurrence :=
  ⟨o.node, o.above ++ outer⟩

/-- A tree that lacks some neighbours among the children of one of its nodes. -/
inductive Gap where
  /-- The top lacks the neighbours. -/
  | among (s : Shell)
  /-- The top lacks a child, and the gap is in that child. -/
  | within (s : Shell) (g : Gap)

namespace Gap

/-- The tree with nodes in its gap. -/
def fill : Gap → List Node → Node
  | among s, ns => s.fill ns
  | within s g, ns => s.fill [g.fill ns]

/-- The nodes above the gap, the nearest first, when it holds some nodes. -/
def above : Gap → List Node → List Node
  | among s, ns => [s.fill ns]
  | within s g, ns => g.above ns ++ [s.fill [g.fill ns]]

/-- What stands before the gap in document order. -/
def leading : Gap → List Node → List Occurrence
  | among s, ns => .top (s.fill ns) :: (Node.occurrencesAll s.before).map (.under (s.fill ns))
  | within s g, ns =>
    let n := s.fill [g.fill ns]
    .top n :: (Node.occurrencesAll s.before ++ g.leading ns).map (.under n)

/-- What stands in the gap. -/
def inside (g : Gap) (ns : List Node) : List Occurrence :=
  (Node.occurrencesAll ns).map (.over (g.above ns))

/-- What stands after the gap in document order. -/
def trailing : Gap → List Node → List Occurrence
  | among s, ns => (Node.occurrencesAll s.after).map (.under (s.fill ns))
  | within s g, ns =>
    let n := s.fill [g.fill ns]
    (g.trailing ns ++ Node.occurrencesAll s.after).map (.under n)

/-- The node that lacks the neighbours. -/
def innermost : Gap → Shell
  | among s => s
  | within _ g => g.innermost

/-- The gap in a child that fills the gap. -/
def deeper : Gap → Shell → Gap
  | among s, inner => within s (among inner)
  | within s g, inner => within s (g.deeper inner)

variable (g : Gap) (ns : List Node)

lemma fill_deeper (inner : Shell) : (g.deeper inner).fill ns = g.fill [inner.fill ns] := by
  induction g with
  | among s => rfl
  | within s g ih => rw [deeper, fill, fill, ih]

lemma above_deeper (inner : Shell) :
    (g.deeper inner).above ns = inner.fill ns :: g.above [inner.fill ns] := by
  induction g with
  | among s => rfl
  | within s g ih => rw [deeper, above, above, ih, fill_deeper, List.cons_append]

end Gap

lemma Node.occurrencesAll_append (ns ms : List Node) :
    occurrencesAll (ns ++ ms) = occurrencesAll ns ++ occurrencesAll ms := by
  induction ns with
  | nil => rfl
  | cons n ns ih => rw [List.cons_append, occurrencesAll, occurrencesAll, ih, List.append_assoc]

lemma Shell.occurrences_fill (s : Shell) (ns : List Node) :
    (s.fill ns).occurrences =
      .top (s.fill ns) :: (Node.occurrencesAll s.before ++ Node.occurrencesAll ns ++
        Node.occurrencesAll s.after).map (.under (s.fill ns)) := by
  rw [Node.occurrences_eq, ← Node.occurrencesAll_append, ← Node.occurrencesAll_append]
  rfl

namespace Gap

lemma inside_within (s : Shell) (g : Gap) (ns : List Node) :
    (within s g).inside ns = (g.inside ns).map (.under (s.fill [g.fill ns])) := by
  rw [inside, inside, List.map_map]
  refine List.map_congr_left fun o _ => ?_
  rw [Function.comp_apply, above, Occurrence.over, ← List.append_assoc]
  rfl

/-- The occurrences of a filled tree, in document order. -/
theorem occurrences_fill (g : Gap) (ns : List Node) :
    (g.fill ns).occurrences = g.leading ns ++ g.inside ns ++ g.trailing ns := by
  induction g with
  | among s =>
      rw [fill, s.occurrences_fill, List.map_append, List.map_append]
      rfl
  | within s g ih =>
      have hchild : Node.occurrencesAll [g.fill ns] = (g.fill ns).occurrences :=
        List.append_nil _
      rw [fill, s.occurrences_fill, hchild, ih, inside_within, leading, trailing]
      simp only [List.map_append, List.cons_append, List.append_assoc]

end Gap

/-! ### A gap in the gap -/

namespace Gap

lemma inside_fill_shell (g : Gap) (n : Node) (ns : List Node) :
    g.inside [n.shell.fill ns] =
      ⟨n.shell.fill ns, g.above [n.shell.fill ns]⟩ :: (g.deeper n.shell).inside ns := by
  have hone : Node.occurrencesAll [n.shell.fill ns] = (n.shell.fill ns).occurrences :=
    List.append_nil _
  have hmap : (Node.occurrencesAll ns).map
      ((Occurrence.over (g.above [n.shell.fill ns])) ∘ .under (n.shell.fill ns)) =
        (g.deeper n.shell).inside ns := by
    rw [inside, above_deeper]
    refine List.map_congr_left fun o _ => ?_
    rw [Function.comp_apply, Occurrence.over, Occurrence.over, Occurrence.under_above,
      List.append_assoc]
    rfl
  rw [inside, hone, Shell.occurrences_fill, List.map_cons, List.map_map]
  simp only [Node.shell, Node.occurrencesAll, List.nil_append, List.append_nil]
  exact congrArg (_ :: ·) hmap

lemma leading_deeper_shell (g : Gap) (n : Node) (ns : List Node) :
    (g.deeper n.shell).leading ns =
      g.leading [n.shell.fill ns] ++ [⟨n.shell.fill ns, g.above [n.shell.fill ns]⟩] := by
  induction g with
  | among s =>
      have hone : (among n.shell).leading ns = [.top (n.shell.fill ns)] := rfl
      rw [deeper, leading, leading, hone, fill, List.map_append]
      rfl
  | within s g ih =>
      rw [deeper, leading, leading, ih, fill_deeper]
      simp only [List.map_append, List.cons_append, List.append_assoc]
      rfl

end Gap

/-- Some neighbours among the children of an occurrence leave a gap. -/
theorem Node.exists_gap {t : Node} {o : Occurrence} (ho : o ∈ t.occurrences)
    {front held back : List Node} (hsplit : o.node.children = front ++ held ++ back) :
    ∃ g : Gap, g.fill held = t ∧ g.above held = o.node :: o.above ∧
      g.innermost = ⟨o.node.kind, front, back, o.node.filename, o.node.line⟩ := by
  induction t using Node.induction generalizing o with
  | step t ih =>
      have hshell : ∀ {ns₁ ns₂ ns₃ : List Node}, t.children = ns₁ ++ ns₂ ++ ns₃ →
          Shell.fill ⟨t.kind, ns₁, ns₃, t.filename, t.line⟩ ns₂ = t := by
        intro ns₁ ns₂ ns₃ h
        rw [Shell.fill, ← h]
        cases t
        rfl
      rcases mem_occurrences_iff.1 ho with rfl | ⟨c, hc, o', ho', rfl⟩
      · refine ⟨.among ⟨t.kind, front, back, t.filename, t.line⟩, hshell hsplit, ?_, rfl⟩
        rw [Gap.above, hshell hsplit]
        rfl
      · obtain ⟨g, hg, habove, hinner⟩ := ih c hc ho' hsplit
        obtain ⟨before, after, hchildren⟩ := List.append_of_mem hc
        have hfill : Shell.fill ⟨t.kind, before, after, t.filename, t.line⟩ [g.fill held] = t := by
          refine hshell ?_
          rw [hg, List.append_assoc, List.singleton_append, hchildren]
        refine ⟨.within ⟨t.kind, before, after, t.filename, t.line⟩ g, hfill, ?_, hinner⟩
        rw [Gap.above, hfill, habove]
        rfl

end SheetCheck
