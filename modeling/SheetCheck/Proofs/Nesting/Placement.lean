import SheetCheck.Proofs.Nesting.FirstBreach

/-!
# What acceptance guarantees

The rules speak of one node and its container at a time.  What a later stage wants to know of an
accepted document is where nodes can stand at all, however many wrappers lie around them, and no
single rule says that.  It follows from two verdicts together: the one on the node, and those on
the wrappers between it and its container, which are checked against the same container.

`WellPlaced` collects the guarantees.  They rest on `silent_of_heldBy` and `silent_of_between`, the
two verdicts, and on what a table without a verdict tells about two kinds.
-/

namespace SheetCheck

open Nesting

/-- The occurrence stands at the root of a document, with nothing but wrappers in between. -/
def Occurrence.AtRoot (o : Occurrence) : Prop :=
  ∃ between p, o.HeldBy between p ∧ p.node.tag = .root

/-- The properties around a property, each directly in the next, end at one that stands in a
rule, a mixin or a directive. -/
def Occurrence.Anchored (o : Occurrence) : Prop :=
  ∃ (inner : List Node) (q : Occurrence) (between : List Node) (p : Occurrence),
    o.node :: o.above = inner ++ q.node :: q.above ∧ (∀ n ∈ inner, n.tag = .property) ∧
      q.node.tag = .property ∧ q.HeldBy between p ∧
      p.node.tag ∈ [.rule, .mixinDef, .directive, .media]

/-- Where the nodes of a tree may be found, at any depth. -/
structure WellPlaced (t : Node) : Prop where
  /-- Imports, character sets and definitions stand at the root of a document. -/
  declarations : ∀ o ∈ t.occurrences,
    o.node.tag ∈ [.importSheet, .charset, .mixinDef, .function] → o.AtRoot
  /-- A return stands in a function at the root, with control directives only in between. -/
  returns : ∀ o ∈ t.occurrences, o.node.tag = .returnValue →
    ∃ between f, o.HeldBy between f ∧ f.node.tag = .function ∧
      (∀ b ∈ between, b.tag ∈ [.eachLoop, .forLoop, .ifBranch, .whileLoop]) ∧ f.AtRoot
  /-- A property holds comments and properties, and those directly. -/
  inProperty : ∀ o ∈ t.occurrences, ∀ between p, o.HeldBy between p → p.node.tag = .property →
    o.node.tag ∈ [.comment, .property] ∧ between = [] ∧ o.node ∈ p.node.children
  /-- No import lies between a property, an extension or a return and its container. -/
  noImport : ∀ o ∈ t.occurrences, o.node.tag ∈ [.property, .extend, .returnValue] →
    ∀ between p, o.HeldBy between p → ∀ b ∈ between, b.tag ≠ .importSheet
  /-- Properties in properties stand, in the end, in a rule, a mixin or a directive. -/
  properties : ∀ o ∈ t.occurrences, o.node.tag = .property → o.Anchored
  /-- An extension stands in a rule or in a mixin. -/
  extensions : ∀ o ∈ t.occurrences, o.node.tag = .extend →
    ∃ between p, o.HeldBy between p ∧ p.node.tag ∈ [.rule, .mixinDef]

/-! ### What a silent table tells about two kinds -/

namespace Rule

variable {container member : Tag} (silent : ∀ s : Rule, ¬ s.Fires container member)
include silent

lemma root_of_declaration (h : member ∈ [.importSheet, .charset, .mixinDef, .function]) :
    container = .root := by
  simp only [List.mem_cons, List.not_mem_nil, or_false] at h
  rcases h with rfl | rfl | rfl | rfl
  · simpa [Fires] using silent .importParent
  · simpa [Fires] using silent .charsetParent
  · simpa [Fires] using silent .mixinDefParent
  · simpa [Fires] using silent .functionParent

lemma function_of_return (h : member = .returnValue) : container = .function := by
  simpa [Fires, h] using silent .returnParent

lemma control_of_wrapper_in_function (h : container = .function) (hw : member ∈ Tag.wrappers) :
    member ∈ [.eachLoop, .forLoop, .ifBranch, .whileLoop] := by
  have hallowed := silent .functionChild
  simp only [Fires, h, true_and, not_not] at hallowed
  simp only [Tag.wrappers, List.mem_cons, List.not_mem_nil, or_false] at hw
  rcases hw with rfl | rfl | rfl | rfl | rfl | rfl <;> simp at hallowed ⊢

lemma comment_or_property_in_property (h : container = .property) :
    member ∈ [.comment, .property] := by
  have hallowed := silent .propertyChild
  simpa only [Fires, h, true_and, not_not] using hallowed

lemma container_of_property (h : member = .property) :
    container ∈ [.rule, .property, .mixinDef, .directive, .media] := by
  have hallowed := silent .propertyParent
  simpa only [Fires, h, true_and, not_not] using hallowed

lemma container_of_extend (h : member = .extend) : container ∈ [.rule, .mixinDef] := by
  have hallowed := silent .extendParent
  simpa only [Fires, h, true_and, not_not] using hallowed

/-- A container that may hold a property, an extension or a return is not the root. -/
lemma ne_root_of_use (h : member ∈ [.property, .extend, .returnValue]) : container ≠ .root := by
  rintro rfl
  simp only [List.mem_cons, List.not_mem_nil, or_false] at h
  rcases h with h | h | h
  · exact absurd (container_of_property silent h) (by decide)
  · exact absurd (container_of_extend silent h) (by decide)
  · exact absurd (function_of_return silent h) (by decide)

end Rule

/-! ### The verdicts on a node and on the wrappers around it -/

section Accepted

variable {t : Node} (accepted : (check t).failure = none)
include accepted

lemma silent_of_heldBy {o p : Occurrence} {between : List Node} (ho : o ∈ t.occurrences)
    (h : o.HeldBy between p) : ∀ s : Rule, ¬ s.Fires p.node.tag o.node.tag := by
  rw [← Rule.forall_not_decides_iff]
  intro s hs
  exact visit_failure_eq_none_iff.1 accepted o ho s ⟨p.node, h.container_eq none, hs⟩

/-- The wrappers around a node have been checked against its container, too. -/
lemma silent_of_between {o p : Occurrence} {between : List Node} (ho : o ∈ t.occurrences)
    (h : o.HeldBy between p) {b : Node} (hb : b ∈ between) :
    ∀ s : Rule, ¬ s.Fires p.node.tag b.tag := by
  obtain ⟨front, back, rfl⟩ := List.append_of_mem hb
  have hsplit : ⟨o.node, front ++ b :: (back ++ p.node :: p.above)⟩ ∈ t.occurrences := by
    have habove := h.above_eq
    rw [List.append_assoc, List.cons_append] at habove
    exact habove ▸ ho
  exact silent_of_heldBy accepted (Node.ancestor_mem_occurrences hsplit) h.of_between

/-- Nothing lies between a property and what it holds. -/
lemma between_eq_nil_of_property {o p : Occurrence} {between : List Node}
    (ho : o ∈ t.occurrences) (h : o.HeldBy between p) (hp : p.node.tag = .property) :
    between = [] := by
  rw [List.eq_nil_iff_forall_not_mem]
  intro b hb
  have hkind := Rule.comment_or_property_in_property (silent_of_between accepted ho h hb) hp
  have hwrapper := h.wrappers b hb
  simp only [List.mem_cons, List.not_mem_nil, or_false] at hkind
  rcases hkind with hkind | hkind
  · exact absurd (hkind ▸ hwrapper) (by decide)
  · exact absurd (hkind ▸ hwrapper) (by decide)

end Accepted

section Document

variable {t : Node} (htop : t.tag = .root) (accepted : (check t).failure = none)
include htop

/-- In a document a node of another kind than the root has a container. -/
lemma exists_heldBy_of_tag_ne_root {o : Occurrence} (ho : o ∈ t.occurrences)
    (hne : o.node.tag ≠ .root) : ∃ between p, p ∈ t.occurrences ∧ o.HeldBy between p := by
  refine Occurrence.exists_heldBy (by rw [htop]; decide) ho ?_
  rintro rfl
  exact hne htop

include accepted

lemma atRoot_of_declaration {o : Occurrence} (ho : o ∈ t.occurrences)
    (htag : o.node.tag ∈ [.importSheet, .charset, .mixinDef, .function]) : o.AtRoot := by
  have hne : o.node.tag ≠ .root := by
    intro h
    rw [h] at htag
    exact absurd htag (by decide)
  obtain ⟨between, p, -, h⟩ := exists_heldBy_of_tag_ne_root htop ho hne
  exact ⟨between, p, h, Rule.root_of_declaration (silent_of_heldBy accepted ho h) htag⟩

/-- The chain of properties around a property, by induction on how much stands above. -/
lemma anchored_of_property {o : Occurrence} (ho : o ∈ t.occurrences)
    (htag : o.node.tag = .property) : o.Anchored := by
  obtain ⟨between, p, hp, h⟩ := exists_heldBy_of_tag_ne_root htop ho (by rw [htag]; decide)
  have hcontainer := Rule.container_of_property (silent_of_heldBy accepted ho h) htag
  by_cases hprop : p.node.tag = .property
  · -- the container is a property: it is the parent, and the chain goes on there
    obtain rfl := between_eq_nil_of_property accepted ho h hprop
    have habove : o.above = p.node :: p.above := h.above_eq
    have hlt : p.above.length < o.above.length := by simp [habove]
    obtain ⟨inner, q, between, r, hsplit, hinner, hq⟩ := anchored_of_property hp hprop
    refine ⟨o.node :: inner, q, between, r, ?_, ?_, hq⟩
    · rw [habove, hsplit, List.cons_append]
    · intro n hn
      rcases List.mem_cons.1 hn with rfl | hn
      · exact htag
      · exact hinner n hn
  · refine ⟨[], o, between, p, rfl, by simp, htag, h, ?_⟩
    simp only [List.mem_cons, List.not_mem_nil, or_false] at hcontainer ⊢
    tauto
termination_by o.above.length

end Document

namespace Nesting

/-- **What acceptance guarantees.**  In a document that the check accepts every node is well
placed, at every depth and through any number of wrappers. -/
theorem wellPlaced_of_check {t : Node} (htop : t.tag = .root)
    (accepted : (check t).failure = none) : WellPlaced t where
  declarations o ho htag := atRoot_of_declaration htop accepted ho htag
  returns o ho htag := by
    obtain ⟨between, f, hf, h⟩ := exists_heldBy_of_tag_ne_root htop ho (by rw [htag]; decide)
    have hfunction := Rule.function_of_return (silent_of_heldBy accepted ho h) htag
    refine ⟨between, f, h, hfunction, ?_, ?_⟩
    · intro b hb
      exact Rule.control_of_wrapper_in_function (silent_of_between accepted ho h hb) hfunction
        (h.wrappers b hb)
    · exact atRoot_of_declaration htop accepted hf (by simp [hfunction])
  inProperty o ho between p h hp := by
    obtain rfl := between_eq_nil_of_property accepted ho h hp
    refine ⟨Rule.comment_or_property_in_property (silent_of_heldBy accepted ho h) hp, rfl, ?_⟩
    have habove : o.above = p.node :: p.above := h.above_eq
    have hsplit : ⟨o.node, p.node :: p.above⟩ ∈ t.occurrences := habove ▸ ho
    exact (Node.parent_mem_occurrences hsplit).2
  noImport o ho htag between p h b hb himport := by
    have hroot := Rule.root_of_declaration (silent_of_between accepted ho h hb) (by simp [himport])
    exact Rule.ne_root_of_use (silent_of_heldBy accepted ho h) htag hroot
  properties o ho htag := anchored_of_property htop accepted ho htag
  extensions o ho htag := by
    obtain ⟨between, p, -, h⟩ := exists_heldBy_of_tag_ne_root htop ho (by rw [htag]; decide)
    exact ⟨between, p, h, Rule.container_of_extend (silent_of_heldBy accepted ho h) htag⟩

/-- A document with a function in an import, and nested properties in a loop. -/
def tidySheet : Node :=
  ⟨.root "", [
    ⟨.importSheet "lib", [⟨.ifBranch, [⟨.function "f", [⟨.whileLoop, [⟨.ifBranch,
      [⟨.returnValue, [], none, 5⟩], none, 4⟩], none, 3⟩], none, 2⟩], none, 1⟩], none, 1⟩,
    ⟨.rule "a", [⟨.eachLoop, [
      ⟨.property ⟨"font", .string "", .new⟩, [
        ⟨.property ⟨"family", .string "x", .new⟩, [⟨.comment, [], none, 5⟩], none, 4⟩], none, 3⟩,
      ⟨.extend "b", [], none, 6⟩], none, 2⟩], none, 1⟩], none, 1⟩

theorem wellPlaced_tidySheet :
    tidySheet.tag = .root ∧ (check tidySheet).failure = none ∧ WellPlaced tidySheet :=
  ⟨rfl, rfl, wellPlaced_of_check rfl rfl⟩

end Nesting

end SheetCheck
