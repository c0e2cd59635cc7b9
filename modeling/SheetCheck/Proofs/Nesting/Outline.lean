import SheetCheck.Proofs.Failure.Trace
import SheetCheck.Proofs.Nesting.Comparison

/-!
# What a check does not look at

The source of a document, the selector of a rule, the name of a mixin, the declaration of a
property: a check reads none of these.  The *outline* of a tree keeps its shape, and of each node
the kind, the file and the line.  Trees with the same outline, checked in scopes of the same kind,
get the same verdict, by the same rule and with the same frames
(`Nesting.visit_of_outline_eq`).  The one thing that comes through is the hint of a misplaced
property, at the end of the message.

Occurrences of such trees match one by one, with the same outlines all the way up
(`Node.forall₂_occurrences`), and a trace is read off these outlines
(`Occurrence.trace_congr`).
-/

namespace SheetCheck

open Nesting

/-- A tree without what belongs to the kinds of its nodes. -/
structure Outline where
  tag : Tag
  children : List Outline
  filename : Option String
  line : UInt64

namespace Node

mutual

/-- The outline of a tree. -/
def outline : Node → Outline
  | ⟨kind, children, filename, line⟩ => ⟨kind.tag, outlineAll children, filename, line⟩

/-- The outlines of trees that stand side by side. -/
def outlineAll : List Node → List Outline
  | [] => []
  | n :: ns => outline n :: outlineAll ns

end

lemma outlineAll_eq_map (ns : List Node) : outlineAll ns = ns.map outline := by
  induction ns with
  | nil => rfl
  | cons n ns ih => rw [outlineAll, ih, List.map_cons]

lemma outline_eq (n : Node) :
    n.outline = ⟨n.tag, n.children.map outline, n.filename, n.line⟩ := by
  obtain ⟨kind, children, filename, line⟩ := n
  rw [outline, outlineAll_eq_map]
  rfl

variable {n n' : Node}

/-- Trees with the same outline agree on their top, and their children have the same outlines. -/
lemma outline_eq_iff :
    n.outline = n'.outline ↔ n.tag = n'.tag ∧ n.children.map outline = n'.children.map outline ∧
      n.filename = n'.filename ∧ n.line = n'.line := by
  rw [outline_eq, outline_eq, Outline.mk.injEq]

lemma tag_congr (h : n.outline = n'.outline) : n.tag = n'.tag := (outline_eq_iff.1 h).1

lemma filename_congr (h : n.outline = n'.outline) : n.filename = n'.filename :=
  (outline_eq_iff.1 h).2.2.1

lemma line_congr (h : n.outline = n'.outline) : n.line = n'.line := (outline_eq_iff.1 h).2.2.2

/-- The name of the first child is in the outline, too. -/
lemma firstFilename_congr (h : n.outline = n'.outline) :
    n.children.head?.bind (·.filename) = n'.children.head?.bind (·.filename) := by
  have hchildren := (outline_eq_iff.1 h).2.1
  cases hn : n.children with
  | nil =>
      rw [hn, List.map_nil, eq_comm, List.map_eq_nil_iff] at hchildren
      rw [hchildren]
  | cons c cs =>
      rw [hn, List.map_cons, eq_comm, List.map_eq_cons_iff] at hchildren
      obtain ⟨c', cs', hn', hc, -⟩ := hchildren
      rw [hn']
      exact filename_congr hc.symm

lemma settles_congr (h : n.outline = n'.outline) : n.settles = n'.settles := by
  rw [settles, settles, tag_congr h, filename_congr h, firstFilename_congr h]

end Node

namespace Occurrence

/-- The outlines of the node and of the nodes above it. -/
def outlines (o : Occurrence) : List Outline := (o.node :: o.above).map Node.outline

variable {o o' : Occurrence}

lemma outlines_eq_iff :
    o.outlines = o'.outlines ↔ o.node.outline = o'.node.outline ∧
      o.above.map Node.outline = o'.above.map Node.outline :=
  List.cons_eq_cons

lemma tags_congr (h : o.outlines = o'.outlines) : o.tags = o'.tags := by
  have htags : ∀ ns : List Node, ns.map Node.tag = (ns.map Node.outline).map Outline.tag := by
    intro ns
    rw [List.map_map]
    exact List.map_congr_left fun n _ => by rw [Function.comp_apply, Node.outline_eq]
  rw [tags, tags, htags, htags]
  exact congrArg (List.map Outline.tag) h

lemma outlines_under (h : o.outlines = o'.outlines) {n n' : Node} (hn : n.outline = n'.outline) :
    (o.under n).outlines = (o'.under n').outlines := by
  obtain ⟨hnode, habove⟩ := outlines_eq_iff.1 h
  rw [outlines_eq_iff, under_node, under_node, under_above, under_above, List.map_append,
    List.map_append, habove, List.map_singleton, List.map_singleton, hn]
  exact ⟨hnode, rfl⟩

/-! ### The trace of an outline -/

lemma fileFrom_congr {above above' : List Node}
    (h : above.map Node.outline = above'.map Node.outline) (beyond : Option String) :
    fileFrom beyond above = fileFrom beyond above' := by
  induction above generalizing above' with
  | nil =>
      obtain rfl := List.map_eq_nil_iff.1 h.symm
      rfl
  | cons n above ih =>
      obtain ⟨n', above', rfl, hn, habove⟩ := List.map_eq_cons_iff.1 h.symm
      rw [fileFrom, fileFrom, List.findSome?_cons, List.findSome?_cons,
        Node.settles_congr hn]
      cases n.settles with
      | none => exact ih habove.symm
      | some file => rfl

lemma frameFrom_congr (h : o.outlines = o'.outlines) (beyond : Option String) :
    o.frameFrom beyond = o'.frameFrom beyond := by
  obtain ⟨hnode, habove⟩ := outlines_eq_iff.1 h
  rw [frameFrom, frameFrom, Node.filename_congr hnode, Node.line_congr hnode,
    fileFrom_congr habove]

/-- Occurrences with the same outlines have the same trace. -/
lemma trace_congr (h : o.outlines = o'.outlines) (beyond : Option String) :
    o.trace beyond = o'.trace beyond := by
  have himports : ∀ {above above' : List Node},
      above.map Node.outline = above'.map Node.outline →
        (importsOf above).map (frameFrom beyond) = (importsOf above').map (frameFrom beyond) := by
    intro above
    induction above with
    | nil =>
        intro above' h
        obtain rfl := List.map_eq_nil_iff.1 h.symm
        rfl
    | cons n above ih =>
        intro above' h
        obtain ⟨n', above', rfl, hn, habove⟩ := List.map_eq_cons_iff.1 h.symm
        have hframe : frameFrom beyond ⟨n, above⟩ = frameFrom beyond ⟨n', above'⟩ :=
          frameFrom_congr (outlines_eq_iff.2 ⟨hn.symm, habove.symm⟩) beyond
        rw [importsOf, importsOf, chain, chain, List.filter_cons, List.filter_cons]
        simp only [Node.tag_congr hn]
        split
        · exact congrArg₂ List.cons hframe (ih habove.symm)
        · exact ih habove.symm
  rw [trace, trace, List.map_cons, List.map_cons, frameFrom_congr h beyond,
    himports (outlines_eq_iff.1 h).2]

end Occurrence

/-! ### The occurrences of trees with the same outline -/

namespace Node

/-- Trees side by side match if each of them does. -/
lemma forall₂_occurrencesAll {ns ns' : List Node} (h : ns.map outline = ns'.map outline)
    (each : ∀ n ∈ ns, ∀ {n' : Node}, n.outline = n'.outline →
      List.Forall₂ (fun o o' => o.outlines = o'.outlines) n.occurrences n'.occurrences) :
    List.Forall₂ (fun o o' => o.outlines = o'.outlines) (occurrencesAll ns)
      (occurrencesAll ns') := by
  induction ns generalizing ns' with
  | nil =>
      obtain rfl := List.map_eq_nil_iff.1 h.symm
      exact .nil
  | cons n ns ih =>
      obtain ⟨n', ns', rfl, hn, hns⟩ := List.map_eq_cons_iff.1 h.symm
      exact List.rel_append (each n List.mem_cons_self hn.symm)
        (ih hns.symm fun m hm => each m (List.mem_cons_of_mem n hm))

/-- The occurrences of trees with the same outline match one by one. -/
theorem forall₂_occurrences {t t' : Node} (h : t.outline = t'.outline) :
    List.Forall₂ (fun o o' => o.outlines = o'.outlines) t.occurrences t'.occurrences := by
  induction t using Node.induction generalizing t' with
  | step t ih =>
      rw [occurrences_eq, occurrences_eq]
      refine .cons (Occurrence.outlines_eq_iff.2 ⟨h, rfl⟩) ?_
      rw [List.forall₂_map_left_iff, List.forall₂_map_right_iff]
      exact (forall₂_occurrencesAll (outline_eq_iff.1 h).2.1 fun c hc => ih c hc).imp
        fun o o' ho => Occurrence.outlines_under ho h

end Node

namespace Failure

/-- Two failures, raised by the nodes `v` and `v'`, that differ in a hint at most. -/
structure SameButForHint (v v' : Node) (e e' : Failure) : Prop where
  rule : e.rule = e'.rule
  frames : e.frames = e'.frames
  message : e.rule ≠ some Rule.propertyParent.name → e.message = e'.message
  /-- About a misplaced property there is one sentence, and behind it each property's own hint. -/
  hints : e.rule = some Rule.propertyParent.name →
    e.message = Rule.propertyParent.sentence ++ v.selectorHint?.getD "" ∧
      e'.message = Rule.propertyParent.sentence ++ v'.selectorHint?.getD ""

end Failure

namespace Rule

lemma name_injective {r s : Rule} (h : r.name = s.name) : r = s := by
  cases r <;> cases s <;> simp_all [name]

/-- Only the rule about misplaced properties has more to say than its sentence. -/
lemma message_of_ne {r : Rule} (h : r ≠ .propertyParent) (n : Node) : r.message n = r.sentence := by
  rw [message, remark, String.append_empty]
  exact h

end Rule

/-- The failures that one rule raises for occurrences with the same outlines. -/
lemma Occurrence.sameButForHint_raise {o o' : Occurrence} (h : o.outlines = o'.outlines)
    (r : Rule) : Failure.SameButForHint o.node o'.node (o.raise r) (o'.raise r) where
  rule := by rw [raise_rule, raise_rule]
  frames := by rw [frames_raise, frames_raise, trace_congr h]
  message hne := by
    have hr : r ≠ .propertyParent := by
      rintro rfl
      exact hne (o.raise_rule _)
    rw [raise_message, raise_message, Rule.message_of_ne hr, Rule.message_of_ne hr]
  hints heq := by
    obtain rfl : r = .propertyParent :=
      Rule.name_injective (Option.some.inj ((o.raise_rule r).symm.trans heq))
    exact ⟨o.raise_message _, o'.raise_message _⟩

namespace Nesting

/-- **A check does not look at payloads.**  Two trees with the same outline, in scopes without a
container or with containers of the same kind, are both accepted, or both fail by the same rule
and with the same frames.  The first breaches stand at the same place, and the messages differ at
most in the hints of the two properties that are misplaced there. -/
theorem visit_of_outline_eq {scope scope' : Scope Node} {t t' : Node}
    (hscope : scope.map Node.tag = scope'.map Node.tag) (h : t.outline = t'.outline) :
    Option.Rel
      (fun e e' => ∃ o o' r, FirstBreach scope t o r ∧ FirstBreach scope' t' o' r ∧
        o.outlines = o'.outlines ∧ e.SameButForHint o.node o'.node e')
      (visit scope t).failure (visit scope' t').failure :=
  rel_failure (Node.forall₂_occurrences h)
    (fun ho _ => Occurrence.breaks_congr hscope (Occurrence.tags_congr ho))
    fun hfirst hfirst' ho => ⟨_, _, _, hfirst, hfirst', ho, Occurrence.sameButForHint_raise ho _⟩

/-- A property in a loop. -/
def looped (p : Property) : Node :=
  ⟨.eachLoop, [⟨.comment, [], none, 4⟩, ⟨.property p, [], none, 5⟩], some "a.scss", 3⟩

/-- In two documents, a property that may be meant as a selector and one that may not fail alike,
and only the first gets a hint. -/
theorem visit_looped_of_outline_eq :
    ∃ e e',
      (visit (some ⟨.root "a", [], none, 1⟩) (looped ⟨"hover", .string "", .old⟩)).failure =
        some e ∧
      (visit (some ⟨.root "", [], none, 7⟩) (looped ⟨"color", .script "red", .new⟩)).failure =
        some e' ∧
      e.rule = e'.rule ∧ e.frames = e'.frames ∧ e.message ≠ e'.message := by
  have hscope : (some ⟨.root "a", [], none, 1⟩ : Scope Node).map Node.tag =
      (some ⟨.root "", [], none, 7⟩ : Scope Node).map Node.tag := rfl
  have houtline : (looped ⟨"hover", .string "", .old⟩).outline =
      (looped ⟨"color", .script "red", .new⟩).outline := rfl
  have hrel := visit_of_outline_eq hscope houtline
  refine ⟨_, _, rfl, rfl, ?_⟩
  obtain ⟨o, o', r, -, -, -, h⟩ := Option.rel_some_some.1 hrel
  exact ⟨h.rule, h.frames, by decide⟩

end Nesting

end SheetCheck
