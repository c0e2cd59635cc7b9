import SheetCheck.Proofs.Failure.Trace
import SheetCheck.Proofs.Nesting.Comparison
import SheetCheck.Proofs.Tree.Gap

/-!
# Wrappers are seen through

Some neighbours in a tree may be put into a wrapper that is allowed where they stand, or taken out
of it again.  The check finds the same breach in both trees, and the two failures agree on the
rule, the message and the lines, except that an import around the breach has a frame of its own
(`Nesting.visit_wrapped`).

The two trees are one gap filled in two ways; any neighbours in any tree leave one
(`Node.exists_gap`).  Outside the gap the occurrences match one by one, and matched ones differ in
children only, those of the nodes above them (`Occurrence.SameHeads`).  In the gap the wrapped tree
has one occurrence more, that of the wrapper, which breaks no rule; all others have the wrapper
among the nodes above them (`Occurrence.Wrapped`), where no rule looks at it.
-/

namespace SheetCheck

open Nesting

variable {scope : Scope Node}

/-! ### Nodes that differ in children only -/

/-- A node without its children. -/
def Node.head (n : Node) : Node := n.withChildren []

section Heads

variable {ns ns' : List Node} (h : ns.map Node.head = ns'.map Node.head)
include h

lemma map_tag_congr : ns.map Node.tag = ns'.map Node.tag := by
  have htag : ∀ ms : List Node, ms.map Node.tag = (ms.map Node.head).map Node.tag := by
    intro ms
    rw [List.map_map]
    rfl
  rw [htag ns, htag ns', h]

lemma importLines_congr : importLines ns = importLines ns' := by
  have hlines : ∀ ms : List Node, importLines ms = importLines (ms.map Node.head) := by
    intro ms
    rw [importLines, importLines, List.filter_map, List.map_map]
    rfl
  rw [hlines ns, hlines ns', h]

end Heads

namespace Occurrence

variable {o o' : Occurrence} {r : Rule}

/-- Two occurrences differ in children only, their own or those of the nodes above them. -/
def SameHeads (o o' : Occurrence) : Prop :=
  (o.node :: o.above).map Node.head = (o'.node :: o'.above).map Node.head

lemma SameHeads.under (h : o.SameHeads o') {n n' : Node} (hn : n.head = n'.head) :
    (o.under n).SameHeads (o'.under n') := by
  rw [SameHeads, under_above, under_above, under_node, under_node, ← List.cons_append,
    ← List.cons_append, List.map_append, List.map_append, h, List.map_singleton,
    List.map_singleton, hn]

lemma SameHeads.breaks_iff (h : o.SameHeads o') : o.Breaks scope r ↔ o'.Breaks scope r :=
  breaks_congr rfl (map_tag_congr h)

lemma forall₂_sameHeads_refl (os : List Occurrence) : List.Forall₂ SameHeads os os :=
  List.forall₂_same.2 fun _ _ => rfl

lemma forall₂_sameHeads_under {os os' : List Occurrence} (h : List.Forall₂ SameHeads os os')
    {n n' : Node} (hn : n.head = n'.head) :
    List.Forall₂ SameHeads (os.map (.under n)) (os'.map (.under n')) := by
  rw [List.forall₂_map_left_iff, List.forall₂_map_right_iff]
  exact h.imp fun _ _ ho => ho.under hn

/-- The occurrence `o'` is `o` with the wrapper `w` among the nodes above it. -/
structure Wrapped (w : Node) (o o' : Occurrence) : Prop where
  node_eq : o'.node = o.node
  above_eq : ∃ inner outer outer', o.above = inner ++ outer ∧ o'.above = inner ++ w :: outer' ∧
    outer.map Node.head = outer'.map Node.head

variable {w : Node}

/-- The rules do not look at a wrapper above. -/
lemma Wrapped.breaks_iff (h : o.Wrapped w o') (hw : w.tag ∈ Tag.wrappers) :
    o.Breaks scope r ↔ o'.Breaks scope r := by
  obtain ⟨hnode, inner, outer, outer', habove, habove', hheads⟩ := h
  rw [Occurrence.breaks_iff, Occurrence.breaks_iff, hnode, habove, habove', List.map_append,
    List.map_append, List.map_cons, List.find?_append, List.find?_append, List.find?_cons,
    map_tag_congr hheads]
  simp only [hw, not_true_eq_false, decide_false]

/-- The lines of the imports above, with the line of the wrapper in its place if it is one. -/
lemma Wrapped.importLines_eq (h : o.Wrapped w o') :
    ∃ inner outer, importLines o.above = inner ++ outer ∧
      importLines o'.above = inner ++ importLines [w] ++ outer := by
  obtain ⟨-, inner, outer, outer', habove, habove', hheads⟩ := h
  refine ⟨importLines inner, importLines outer, ?_, ?_⟩
  · rw [habove, importLines, List.filter_append, List.map_append]
    rfl
  · rw [importLines_congr hheads, habove', List.append_cons, importLines, List.filter_append,
      List.filter_append, List.map_append, List.map_append]
    rfl

end Occurrence

/-! ### The two fillings of a gap -/

namespace Gap

variable (g : Gap)

/-- The first breach stands in the gap: nothing before it breaks a rule, and something in it
does. -/
def BreachInside (scope : Scope Node) (ns : List Node) : Prop :=
  (∀ o ∈ g.leading ns, ∀ r, ¬ o.Breaks scope r) ∧ ∃ o ∈ g.inside ns, ∃ r, o.Breaks scope r

/-- A node may stand in the gap, between or around what it holds. -/
def Admits (scope : Scope Node) (ns : List Node) (n : Node) : Prop :=
  ∀ r, ¬ (⟨n, g.above ns⟩ : Occurrence).Breaks scope r

lemma map_head_above (ns ns' : List Node) :
    (g.above ns).map Node.head = (g.above ns').map Node.head := by
  induction g with
  | among s => rfl
  | within s g ih =>
      rw [above, above, List.map_append, List.map_append, ih]
      rfl

open Occurrence in
lemma leading_sameHeads (ns ns' : List Node) :
    List.Forall₂ SameHeads (g.leading ns) (g.leading ns') := by
  induction g with
  | among s => exact .cons rfl (forall₂_sameHeads_under (forall₂_sameHeads_refl _) rfl)
  | within s g ih =>
      exact .cons rfl
        (forall₂_sameHeads_under (List.rel_append (forall₂_sameHeads_refl _) ih) rfl)

open Occurrence in
lemma trailing_sameHeads (ns ns' : List Node) :
    List.Forall₂ SameHeads (g.trailing ns) (g.trailing ns') := by
  induction g with
  | among s => exact forall₂_sameHeads_under (forall₂_sameHeads_refl _) rfl
  | within s g ih =>
      exact forall₂_sameHeads_under (List.rel_append ih (forall₂_sameHeads_refl _)) rfl

variable {g} {w : Node} {held : List Node}

lemma inside_wrapped :
    List.Forall₂ (Occurrence.Wrapped (w.shell.fill held)) (g.inside held)
      ((g.deeper w.shell).inside held) := by
  rw [inside, inside, List.forall₂_map_left_iff, List.forall₂_map_right_iff, List.forall₂_same]
  intro o _
  refine ⟨rfl, o.above, g.above held, g.above [w.shell.fill held], rfl, ?_,
    g.map_head_above held _⟩
  rw [Occurrence.over, above_deeper]

lemma admits_congr (ns ns' : List Node) {n n' : Node} (h : n.tag = n'.tag) :
    g.Admits scope ns n ↔ g.Admits scope ns' n' := by
  refine forall_congr' fun r => not_congr (Occurrence.breaks_congr rfl ?_)
  rw [Occurrence.tags, Occurrence.tags, List.map_cons, List.map_cons, h,
    map_tag_congr (g.map_head_above ns ns')]

lemma breachInside_iff {ns : List Node} :
    g.BreachInside scope ns ↔
      firstAmong scope (g.leading ns) = none ∧ firstAmong scope (g.inside ns) ≠ none := by
  rw [BreachInside, firstAmong_eq_none_iff, ne_eq, firstAmong_eq_none_iff]
  push Not
  rfl

/-- The wrapper itself is no breach. -/
lemma firstAmong_wrapper {ns : List Node} (admits : g.Admits scope ns w) :
    firstAmong scope [⟨w.shell.fill held, g.above [w.shell.fill held]⟩] = none := by
  rw [firstAmong_eq_none_iff]
  intro o ho
  obtain rfl := List.mem_singleton.1 ho
  exact (admits_congr ns [w.shell.fill held] rfl).1 admits

lemma firstAmong_inside_wrapped {ns : List Node} (admits : g.Admits scope ns w) :
    firstAmong scope (g.inside [w.shell.fill held]) =
      firstAmong scope ((g.deeper w.shell).inside held) := by
  rw [inside_fill_shell, ← List.singleton_append, firstAmong_append, firstAmong_wrapper admits,
    Option.none_or]

section Wrapper

variable {ns : List Node} (hw : w.tag ∈ Tag.wrappers) (admits : g.Admits scope ns w)
include hw admits

/-- Whether the first breach stands in the gap does not depend on the wrapper. -/
lemma breachInside_deeper :
    g.BreachInside scope held ↔ (g.deeper w.shell).BreachInside scope held := by
  rw [breachInside_iff, breachInside_iff, leading_deeper_shell, firstAmong_append,
    firstAmong_wrapper admits, Option.or_none, ne_eq, ne_eq,
    firstAmong_eq_none_congr (g.leading_sameHeads held [w.shell.fill held])
      fun h _ => h.breaks_iff,
    firstAmong_eq_none_congr inside_wrapped fun h _ => h.breaks_iff hw]

/-- The first breaches of the two trees match. -/
lemma rel_firstAmong_wrapped :
    Option.Rel
      (fun b b' => b.2 = b'.2 ∧ (¬ g.BreachInside scope held ∧ b.1.SameHeads b'.1 ∨
        g.BreachInside scope held ∧ b.1.Wrapped (w.shell.fill held) b'.1))
      (firstAmong scope (g.fill held).occurrences)
      (firstAmong scope (g.fill [w.shell.fill held]).occurrences) := by
  have hleading : Option.Rel _ (firstAmong scope (g.leading held))
      (firstAmong scope (g.leading [w.shell.fill held])) :=
    rel_firstAmong (g.leading_sameHeads _ _) fun h _ => h.breaks_iff
  have hinside : Option.Rel _ (firstAmong scope (g.inside held))
      (firstAmong scope ((g.deeper w.shell).inside held)) :=
    rel_firstAmong inside_wrapped fun h _ => h.breaks_iff hw
  have htrailing : Option.Rel _ (firstAmong scope (g.trailing held))
      (firstAmong scope (g.trailing [w.shell.fill held])) :=
    rel_firstAmong (g.trailing_sameHeads _ _) fun h _ => h.breaks_iff
  rw [breachInside_iff, occurrences_fill, occurrences_fill, firstAmong_append, firstAmong_append,
    firstAmong_append, firstAmong_append, firstAmong_inside_wrapped admits]
  generalize firstAmong scope (g.leading held) = l,
    firstAmong scope (g.leading [w.shell.fill held]) = l' at hleading ⊢
  generalize firstAmong scope (g.inside held) = i,
    firstAmong scope ((g.deeper w.shell).inside held) = i' at hinside ⊢
  generalize firstAmong scope (g.trailing held) = m,
    firstAmong scope (g.trailing [w.shell.fill held]) = m' at htrailing ⊢
  -- the first breach stands before the gap, in it, or after it
  cases hleading with
  | some h => exact .some ⟨h.2, .inl ⟨by simp, h.1⟩⟩
  | none =>
      cases hinside with
      | some h => exact .some ⟨h.2, .inr ⟨by simp, h.1⟩⟩
      | none =>
          cases htrailing with
          | some h => exact .some ⟨h.2, .inl ⟨by simp, h.1⟩⟩
          | none => exact .none

end Wrapper

end Gap

/-! ### The two failures -/

/-- Two failures, of which the second comes from a tree with the wrapper `w`; the breach stands in
the wrapper if `inside`.  The frames of the two have the same lines, except that an import around
the breach has a frame of its own, further out than that of the breach. -/
structure Failure.SeenThrough (w : Node) (inside : Prop) (e e' : Failure) : Prop where
  rule : e'.rule = e.rule
  message : e'.message = e.message
  line : e'.origin.line = e.origin.line
  lines : ¬ (w.tag = .importSheet ∧ inside) → e'.lines = e.lines
  added : w.tag = .importSheet → inside → e'.frames.length = e.frames.length + 1 ∧
    ∃ inner outer, inner ≠ [] ∧ e.lines = inner ++ outer ∧
      e'.lines = inner ++ some w.line :: outer

lemma Failure.length_lines (e : Failure) : e.lines.length = e.frames.length := List.length_map ..

namespace Occurrence

variable {o o' : Occurrence} {w : Node} {inside : Prop}

lemma SameHeads.seenThrough (h : o.SameHeads o') (hout : ¬ inside) (r : Rule) :
    (o.raise r).SeenThrough w inside (o'.raise r) := by
  obtain ⟨hnode, habove⟩ := List.cons.inj h
  have hkind : o.node.kind = o'.node.kind := (congrArg Node.kind hnode :)
  have hline : o.node.line = o'.node.line := (congrArg Node.line hnode :)
  have hlines : (o'.raise r).lines = (o.raise r).lines := by
    rw [lines_raise, lines_raise, hline, importLines_congr habove]
  refine ⟨?_, ?_, ?_, fun _ => hlines, fun _ hin => absurd hin hout⟩
  · rw [raise_rule, raise_rule]
  · rw [raise_message, raise_message, Rule.message_congr hkind]
  · exact Option.some.inj (congrArg List.head? hlines)

lemma Wrapped.seenThrough {held : List Node} (h : o.Wrapped (w.shell.fill held) o')
    (hin : inside) (r : Rule) :
    (o.raise r).SeenThrough w inside (o'.raise r) := by
  obtain ⟨inner, outer, hlines, hlines'⟩ := h.importLines_eq
  have hwrapper : importLines [w.shell.fill held] = importLines [w] := importLines_congr rfl
  have hraise : (o.raise r).lines = some o.node.line :: inner ++ outer := by
    rw [lines_raise, hlines]
    rfl
  have hraise' : (o'.raise r).lines = some o.node.line :: inner ++ importLines [w] ++ outer := by
    rw [lines_raise, hlines', h.node_eq, hwrapper]
    rfl
  refine ⟨?_, ?_, ?_, ?_, ?_⟩
  · rw [raise_rule, raise_rule]
  · rw [raise_message, raise_message, h.node_eq]
  · have hhead : (o'.raise r).lines.head? = (o.raise r).lines.head? := by
      rw [hraise, hraise']
      rfl
    exact Option.some.inj hhead
  · intro hnot
    have htag : w.tag ≠ .importSheet := fun htag => hnot ⟨htag, hin⟩
    rw [hraise, hraise', importLines, List.filter_singleton]
    simp [htag]
  · intro htag _
    have hw : importLines [w] = [some w.line] := by
      rw [importLines, List.filter_singleton]
      simp [htag]
    rw [hw] at hraise'
    refine ⟨?_, some o.node.line :: inner, outer, List.cons_ne_nil _ _, hraise, ?_⟩
    · rw [← Failure.length_lines, ← Failure.length_lines, hraise, hraise', List.length_append,
        List.length_append, List.length_append, List.length_singleton]
      omega
    · rw [hraise', List.append_assoc]
      rfl

end Occurrence

namespace Nesting

/-- **Wrappers are seen through.**  Some neighbours are put into a wrapper that may stand where
they are, or are taken out of it.  The check accepts both trees, or fails on both by the same rule,
with the same message and at the same line.  The failures have the same number of frames with the
same lines, unless the wrapper is an import and the first breach stands in it: then that import
has one frame more.  Whether the first breach stands in the wrapper can be read off either tree. -/
theorem visit_wrapped {scope : Scope Node} {g : Gap} {w : Node} {ns : List Node}
    (hw : w.tag ∈ Tag.wrappers) (admits : g.Admits scope ns w) (held : List Node) :
    (g.BreachInside scope held ↔ (g.deeper w.shell).BreachInside scope held) ∧
      Option.Rel (Failure.SeenThrough w (g.BreachInside scope held))
        (visit scope (g.fill held)).failure
        (visit scope (g.fill [w.withChildren held])).failure := by
  refine ⟨Gap.breachInside_deeper hw admits, ?_⟩
  have hrel : Option.Rel _ (firstAmong scope (g.fill held).occurrences)
      (firstAmong scope (g.fill [w.shell.fill held]).occurrences) :=
    Gap.rel_firstAmong_wrapped hw admits
  rw [← Node.fill_shell, visit_failure_eq_map, visit_failure_eq_map]
  generalize firstAmong scope (g.fill held).occurrences = b,
    firstAmong scope (g.fill [w.shell.fill held]).occurrences = b' at hrel ⊢
  cases hrel with
  | none => exact .none
  | @some b b' h =>
      obtain ⟨o, r⟩ := b
      obtain ⟨o', r'⟩ := b'
      obtain ⟨rfl, ⟨hout, hheads⟩ | ⟨hin, hwrapped⟩⟩ := h
      · exact .some (hheads.seenThrough hout r)
      · exact .some (hwrapped.seenThrough hin r)

/-- A conditional part at the root of a document, where some neighbours between two comments can be
taken together. -/
def conditionalPart : Gap :=
  .within ⟨.root "", [⟨.comment, [], none, 1⟩], [], some "main.scss", 1⟩
    (.among ⟨.ifBranch, [⟨.comment, [], none, 3⟩], [⟨.comment, [], none, 9⟩], none, 2⟩)

/-- A mixin and a misplaced property in a loop. -/
def mixinAndStrayProperty : List Node :=
  [⟨.mixinDef "m", [], none, 5⟩,
    ⟨.eachLoop, [⟨.property ⟨"color", .string "red", .new⟩, [], none, 7⟩], none, 6⟩]

/-- An import around the two adds its frame to the failure. -/
theorem visit_wrapped_conditionalPart :
    ∃ e e',
      (visit none (conditionalPart.fill mixinAndStrayProperty)).failure = some e ∧
      (visit none (conditionalPart.fill
        [⟨.importSheet "lib", mixinAndStrayProperty, none, 4⟩])).failure = some e' ∧
      e'.message = e.message ∧ e.lines = [some 7] ∧ e'.lines = [some 7, some 4] ∧
      e'.frames.length = e.frames.length + 1 := by
  have admits : conditionalPart.Admits none [] ⟨.importSheet "lib", [], none, 4⟩ :=
    breach?_eq_none_iff.1 rfl
  obtain ⟨-, hrel⟩ := visit_wrapped (by decide) admits mixinAndStrayProperty
  have hin : conditionalPart.BreachInside none mixinAndStrayProperty :=
    Gap.breachInside_iff.2 ⟨rfl, by decide⟩
  refine ⟨_, _, rfl, rfl, ?_⟩
  have h := Option.rel_some_some.1 hrel
  exact ⟨h.message, rfl, rfl, (h.added rfl hin).1⟩

end Nesting

end SheetCheck
