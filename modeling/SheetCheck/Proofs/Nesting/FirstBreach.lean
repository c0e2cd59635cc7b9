import SheetCheck.Proofs.Failure.Leave
import SheetCheck.Proofs.Nesting.Container
import SheetCheck.Proofs.Nesting.Table

/-!
# The first breach

What a check finds, said without its recursion: of all the occurrences of a tree, in document
order, the first that breaks a rule of the table in its container.  The failure that comes out is
the one raised there, after it has left the nodes above one by one.

The check fails fast and hands its scope down by value, while the statement here is about a flat
list and the containers read off it.  Both sides are unfolded by one level in the same way: an
occurrence under one more node has the container that it has in the scope of that node's
children (`Occurrence.container_under`), and its failure leaves one more node
(`Occurrence.raise_under`).  The main results are

* `Nesting.visit_failure_eq_some_iff`: a check fails with the failure raised at the first breach;
* `Nesting.visit_failure_eq_none_iff`: a check accepts exactly when nothing breaks a rule;
* `FirstBreach.unique`: there is only one first breach, and one rule that it breaks;
* `Occurrence.raise_rule` and `Occurrence.raise_message`: what the failure reports is what was
  found at the breach.
-/

namespace SheetCheck

open Nesting

namespace Occurrence

/-- The occurrence has a container in which it breaks a rule of the table. -/
def Breaks (scope : Scope Node) (o : Occurrence) (r : Rule) : Prop :=
  ∃ p, o.container scope = some p ∧ r.Decides p.tag o.node.tag

end Occurrence

/-- The first occurrence of a tree that breaks a rule, and the rule. -/
structure FirstBreach (scope : Scope Node) (t : Node) (o : Occurrence) (r : Rule) : Prop where
  first : ∃ before after, t.occurrences = before ++ o :: after ∧
    ∀ o' ∈ before, ∀ r', ¬ o'.Breaks scope r'
  breaks : o.Breaks scope r

/-- The failure raised by an occurrence that breaks a rule, once it has left all nodes above. -/
def Occurrence.raise (o : Occurrence) (r : Rule) : Failure :=
  o.above.foldl (fun e n => n.leave e)
    (((Failure.new (r.message o.node)).withRule r.name).fill o.node.place)

namespace FirstBreach

variable {scope : Scope Node} {t : Node} {o : Occurrence} {r : Rule}

lemma mem (h : FirstBreach scope t o r) : o ∈ t.occurrences := by
  obtain ⟨before, after, heq, -⟩ := h.first
  rw [heq]
  exact List.mem_append_right _ List.mem_cons_self

end FirstBreach

/-! ### One level of a check -/

namespace Checked

lemma andThen_failure (c d : Checked) : (c.andThen d).failure = c.failure.or d.failure := by
  obtain ⟨events, failure⟩ := c
  cases failure <;> rfl

lemma outward_failure (c : Checked) (f : Failure → List Event × Failure) :
    (c.outward f).failure = c.failure.map fun e => (f e).2 := by
  obtain ⟨events, failure⟩ := c
  cases failure <;> rfl

end Checked

namespace Occurrence

lemma raise_top (n : Node) (r : Rule) :
    (top n).raise r = ((Failure.new (r.message n)).withRule r.name).fill n.place := rfl

/-- Seen from one level further out, a failure leaves one node more. -/
lemma raise_under (n : Node) (o : Occurrence) (r : Rule) :
    (o.under n).raise r = n.leave (o.raise r) := by
  simp only [raise, under_above, under_node, List.foldl_append, List.foldl_cons, List.foldl_nil]

end Occurrence

namespace Nesting

lemma violation?_eq_some_iff {scope : Scope Node} {n p : Node} {r : Rule} :
    violation? scope n = some (r, p) ↔ scope = some p ∧ r.Decides p.tag n.tag := by
  cases scope with
  | none => simp [violation?]
  | some q =>
      simp only [violation?, Option.map_eq_some_iff, Option.some.injEq, Prod.mk.injEq,
        Rule.broken?_eq_some_iff]
      constructor
      · rintro ⟨s, hs, rfl, rfl⟩
        exact ⟨rfl, hs⟩
      · rintro ⟨rfl, hr⟩
        exact ⟨r, hr, rfl, rfl⟩

/-- A check of a tree fails at its top, or else below, and then the failure leaves the top. -/
lemma visit_failure (scope : Scope Node) (n : Node) :
    (visit scope n).failure =
      match violation? scope n with
      | some (r, _) => some ((Occurrence.top n).raise r)
      | none => (visitAll (scope.enter n.tag n) n.children).failure.map n.leave := by
  obtain ⟨kind, children, filename, line⟩ := n
  rw [visit, Checked.outward_failure]
  -- both sides ask for the same verdict on the top
  cases violation? scope ⟨kind, children, filename, line⟩ with
  | some v => rfl
  | none =>
      simp only [Checked.after, Checked.outward_failure, Option.map_map]
      rfl

/-! ### The recursion against the list -/

/-- What an occurrence raises, if it breaks a rule. -/
def raised? (scope : Scope Node) (o : Occurrence) : Option Failure :=
  (violation? (o.container scope) o.node).map fun v => o.raise v.1

lemma raised?_eq_some_iff {scope : Scope Node} {o : Occurrence} {e : Failure} :
    raised? scope o = some e ↔ ∃ r, o.Breaks scope r ∧ e = o.raise r := by
  rw [raised?, Option.map_eq_some_iff]
  constructor
  · rintro ⟨⟨r, p⟩, hv, rfl⟩
    obtain ⟨hp, hr⟩ := violation?_eq_some_iff.1 hv
    exact ⟨r, ⟨p, hp, hr⟩, rfl⟩
  · rintro ⟨r, ⟨p, hp, hr⟩, rfl⟩
    exact ⟨(r, p), violation?_eq_some_iff.2 ⟨hp, hr⟩, rfl⟩

lemma raised?_eq_none_iff {scope : Scope Node} {o : Occurrence} :
    raised? scope o = none ↔ ∀ r, ¬ o.Breaks scope r := by
  rw [Option.eq_none_iff_forall_ne_some]
  constructor
  · intro h r hr
    exact h _ (raised?_eq_some_iff.2 ⟨r, hr, rfl⟩)
  · intro h e he
    obtain ⟨r, hr, -⟩ := raised?_eq_some_iff.1 he
    exact h r hr

lemma raised?_under (scope : Scope Node) (n : Node) (o : Occurrence) :
    raised? scope (o.under n) = (raised? (scope.enter n.tag n) o).map n.leave := by
  simp only [raised?, Occurrence.container_under, Occurrence.under_node, Occurrence.raise_under,
    Option.map_map]
  rfl

/-- Trees side by side are checked up to the first failure, if each of them is. -/
lemma visitAll_failure_eq_findSome? {scope : Scope Node} {ns : List Node}
    (h : ∀ n ∈ ns, (visit scope n).failure = n.occurrences.findSome? (raised? scope)) :
    (visitAll scope ns).failure = (Node.occurrencesAll ns).findSome? (raised? scope) := by
  induction ns with
  | nil => rfl
  | cons n ns ih =>
      rw [visitAll, Checked.andThen_failure, Node.occurrencesAll, List.findSome?_append,
        h n List.mem_cons_self, ih fun m hm => h m (List.mem_cons_of_mem n hm)]

/-- The failure of a check is the first one that an occurrence raises. -/
theorem visit_failure_eq_findSome? (scope : Scope Node) (t : Node) :
    (visit scope t).failure = t.occurrences.findSome? (raised? scope) := by
  -- for all scopes at once, as the children are checked in another scope than the top
  induction t using Node.induction generalizing scope with
  | step t ih =>
      rw [visit_failure, Node.occurrences_eq, List.findSome?_cons]
      cases hv : violation? scope t with
      | some v =>
          simp only [raised?, Occurrence.container_top, Occurrence.top_node, hv, Option.map_some]
      | none =>
          have hunder : raised? scope ∘ Occurrence.under t =
              Option.map t.leave ∘ raised? (scope.enter t.tag t) := by
            funext o
            exact raised?_under scope t o
          simp only [raised?, Occurrence.container_top, Occurrence.top_node, hv, Option.map_none]
          rw [visitAll_failure_eq_findSome? fun c hc => ih c hc _, List.map_findSome?, ← hunder,
            ← List.findSome?_map]

/-- A check fails with the failure that the first breach raises. -/
theorem visit_failure_eq_some_iff {scope : Scope Node} {t : Node} {e : Failure} :
    (visit scope t).failure = some e ↔ ∃ o r, FirstBreach scope t o r ∧ e = o.raise r := by
  rw [visit_failure_eq_findSome?, List.findSome?_eq_some_iff]
  constructor
  · rintro ⟨before, o, after, heq, ho, hbefore⟩
    obtain ⟨r, hr, he⟩ := raised?_eq_some_iff.1 ho
    exact ⟨o, r, ⟨⟨before, after, heq, fun o' h => raised?_eq_none_iff.1 (hbefore o' h)⟩, hr⟩, he⟩
  · rintro ⟨o, r, ⟨⟨before, after, heq, hbefore⟩, hr⟩, he⟩
    exact ⟨before, o, after, heq, raised?_eq_some_iff.2 ⟨r, hr, he⟩,
      fun o' h => raised?_eq_none_iff.2 (hbefore o' h)⟩

/-- A check accepts exactly the trees in which nothing breaks a rule. -/
theorem visit_failure_eq_none_iff {scope : Scope Node} {t : Node} :
    (visit scope t).failure = none ↔ ∀ o ∈ t.occurrences, ∀ r, ¬ o.Breaks scope r := by
  rw [visit_failure_eq_findSome?, List.findSome?_eq_none_iff]
  exact forall₂_congr fun o _ => raised?_eq_none_iff

end Nesting

/-- A tree has at most one first breach. -/
theorem FirstBreach.unique {scope : Scope Node} {t : Node} {o o' : Occurrence} {r r' : Rule}
    (h : FirstBreach scope t o r) (h' : FirstBreach scope t o' r') : o = o' ∧ r = r' := by
  have hfind : ∀ {a : Occurrence} {s : Rule}, FirstBreach scope t a s →
      t.occurrences.find? (fun b => (raised? scope b).isSome) = some a := by
    rintro a s ⟨⟨before, after, heq, hbefore⟩, hs⟩
    rw [List.find?_eq_some_iff_append]
    refine ⟨by simp [raised?_eq_some_iff.2 ⟨s, hs, rfl⟩], before, after, heq, ?_⟩
    intro b hb
    simp [raised?_eq_none_iff.2 (hbefore b hb)]
  obtain rfl : o = o' := Option.some.inj ((hfind h).symm.trans (hfind h'))
  obtain ⟨p, hp, hr⟩ := h.breaks
  obtain ⟨p', hp', hr'⟩ := h'.breaks
  obtain rfl : p = p' := Option.some.inj (hp.symm.trans hp')
  exact ⟨rfl, hr.unique hr'⟩

/-- The first breach of a tree, by looking at its occurrences one after the other. -/
lemma FirstBreach.of_violation? {scope : Scope Node} {t p : Node} {o : Occurrence} {r : Rule}
    {before after : List Occurrence} (heq : t.occurrences = before ++ o :: after)
    (hbefore : before.all (fun o' => (raised? scope o').isNone) = true)
    (ho : violation? (o.container scope) o.node = some (r, p)) : FirstBreach scope t o r := by
  obtain ⟨hp, hr⟩ := violation?_eq_some_iff.1 ho
  refine ⟨⟨before, after, heq, ?_⟩, p, hp, hr⟩
  intro o' ho'
  have hnone := List.all_eq_true.1 hbefore o' ho'
  exact raised?_eq_none_iff.1 (Option.isNone_iff_eq_none.1 hnone)

/-! ### What a failure keeps on its way out -/

namespace Occurrence

lemma raise_rule (o : Occurrence) (r : Rule) : (o.raise r).rule = some r.name := by
  induction o using Occurrence.induction with
  | top n => rfl
  | under n o ih => rw [raise_under, Node.leave_rule, ih]

lemma raise_message (o : Occurrence) (r : Rule) : (o.raise r).message = r.message o.node := by
  induction o using Occurrence.induction with
  | top n => rfl
  | under n o ih => rw [raise_under, Node.leave_message, ih, under_node]

end Occurrence

namespace Nesting

/-- **The check reports the first breach.**  A tree is accepted in a scope exactly when none of
its nodes breaks a rule in its container.  Otherwise the failure names the rule that the first
such node in document order breaks, by its title in the table, and its message is the wording of
that rule, with the hint of the node behind it if the rule is about misplaced properties.  A whole
document is checked without a container. -/
theorem visit_reports_first_breach (scope : Scope Node) (t : Node) :
    ((visit scope t).failure = none ↔ ∀ o ∈ t.occurrences, ∀ r, ¬ o.Breaks scope r) ∧
      (∀ e, (visit scope t).failure = some e →
        ∃ o r, FirstBreach scope t o r ∧ e.rule = some r.title ∧
          e.message = r.wording ++
            if r = .propertyParent then o.node.selectorHint?.getD "" else "") ∧
      check t = visit none t := by
  refine ⟨visit_failure_eq_none_iff, ?_, rfl⟩
  intro e he
  obtain ⟨o, r, hfirst, rfl⟩ := visit_failure_eq_some_iff.1 he
  have hremark : r.remark o.node =
      if r = .propertyParent then o.node.selectorHint?.getD "" else "" := by
    cases r <;> rfl
  refine ⟨o, r, hfirst, ?_, ?_⟩
  · rw [o.raise_rule, r.name_eq_title]
  · rw [o.raise_message, Rule.message, r.sentence_eq_wording, hremark]

end Nesting

end SheetCheck
