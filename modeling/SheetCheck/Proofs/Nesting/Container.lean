import SheetCheck.Nesting.Scope
import SheetCheck.Proofs.Tree.Occurrence

/-!
# The container of an occurrence

A node is checked against the nearest node above it that is no *wrapper*: a wrapper is a control
directive, an import or the use of a mixin, and the check sees through it.  `Occurrence.container`
reads this off the nodes above an occurrence, with the starting scope for an occurrence that has
wrappers only above it, and `Occurrence.HeldBy` says it with the container as an occurrence and
the wrappers between the two.

`Occurrence.container_under` is the step that the check takes when it enters a node, and
`Occurrence.exists_heldBy` the reason why below the top of a document nothing is without a
container.
-/

namespace SheetCheck

/-- The kinds of nodes that the check sees through. -/
def Tag.wrappers : List Tag := [.eachLoop, .forLoop, .ifBranch, .importSheet, .mixin, .whileLoop]

lemma Tag.isTransparent_iff {tag : Tag} : tag.isTransparent = true ↔ tag ∈ Tag.wrappers := by
  cases tag <;> decide

namespace Occurrence

/-- The nearest node above an occurrence that is no wrapper, or the container that `scope` tells
if there is no such node. -/
def container (scope : Scope Node) (o : Occurrence) : Option Node :=
  (o.above.find? fun n => n.tag ∉ Tag.wrappers).or scope

/-- The occurrence `o` has the container `p`, with the wrappers `between` around `o`. -/
structure HeldBy (o : Occurrence) (between : List Node) (p : Occurrence) : Prop where
  above_eq : o.above = between ++ p.node :: p.above
  wrappers : ∀ b ∈ between, b.tag ∈ Tag.wrappers
  not_wrapper : p.node.tag ∉ Tag.wrappers

@[simp] lemma container_top (scope : Scope Node) (n : Node) : (top n).container scope = scope :=
  rfl

/-- Seen from one level further out, the starting scope is that of the children of the top. -/
lemma container_under (scope : Scope Node) (n : Node) (o : Occurrence) :
    (o.under n).container scope = o.container (scope.enter n.tag n) := by
  rw [container, under_above, List.find?_append, Option.or_assoc, container]
  congr 1
  by_cases h : n.tag ∈ Tag.wrappers
  · rw [Scope.enter_of_isTransparent (Tag.isTransparent_iff.2 h)]
    simp [h]
  · rw [Scope.enter_of_not_isTransparent (by rwa [← Bool.not_eq_true, Tag.isTransparent_iff])]
    simp [h]

lemma HeldBy.container_eq {o p : Occurrence} {between : List Node} (h : o.HeldBy between p)
    (scope : Scope Node) : o.container scope = some p.node := by
  have hfind : o.above.find? (fun n => n.tag ∉ Tag.wrappers) = some p.node := by
    rw [List.find?_eq_some_iff_append]
    refine ⟨by simpa using h.not_wrapper, between, p.above, h.above_eq, ?_⟩
    intro b hb
    simpa using h.wrappers b hb
  rw [container, hfind, Option.some_or]

/-- A wrapper between an occurrence and its container has the same container. -/
lemma HeldBy.of_between {o p : Occurrence} {front back : List Node} {b : Node}
    (h : o.HeldBy (front ++ b :: back) p) : HeldBy ⟨b, back ++ p.node :: p.above⟩ back p where
  above_eq := rfl
  wrappers c hc := h.wrappers c (by simp [hc])
  not_wrapper := h.not_wrapper

/-- In a tree whose top is no wrapper everything but the top has a container. -/
lemma exists_heldBy {t : Node} (ht : t.tag ∉ Tag.wrappers) {o : Occurrence}
    (ho : o ∈ t.occurrences) (hne : o ≠ .top t) :
    ∃ between p, p ∈ t.occurrences ∧ o.HeldBy between p := by
  rcases Node.eq_top_or_above_concat ho with h | ⟨inner, habove⟩
  · exact absurd h hne
  · have hsome : (o.above.find? fun n => n.tag ∉ Tag.wrappers).isSome := by
      rw [List.find?_isSome]
      exact ⟨t, by simp [habove], by simpa using ht⟩
    obtain ⟨p, hp⟩ := Option.isSome_iff_exists.1 hsome
    obtain ⟨hnot, between, outer, heq, hbetween⟩ := List.find?_eq_some_iff_append.1 hp
    have hsplit : ⟨o.node, between ++ p :: outer⟩ ∈ t.occurrences := heq ▸ ho
    refine ⟨between, ⟨p, outer⟩, Node.ancestor_mem_occurrences hsplit, heq, ?_, ?_⟩
    · intro b hb
      simpa using hbetween b hb
    · simpa using hnot

end Occurrence

end SheetCheck
