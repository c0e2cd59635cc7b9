import Mathlib.Data.List.Forall2
import SheetCheck.Proofs.Nesting.FirstBreach

/-!
# Two checks side by side

What a check finds depends on the occurrences of the tree in their order, and of each occurrence
the rules look at the kinds only: that of the node, those of the nodes above it, and that of the
container from which the check starts (`Occurrence.breaks_iff`).  So two checks are compared
through their occurrences.  Where these can be matched one by one, and matched occurrences break
the same rules, the two first breaches match (`Nesting.rel_firstAmong`), and the failures raised
there remain to be compared (`Nesting.rel_failure`).

`Option.Rel` puts both verdicts into one statement: either both checks accept, or both fail and
the two failures are related.
-/

namespace SheetCheck

/-- The message about a node looks at its kind alone. -/
lemma Rule.message_congr {n n' : Node} (h : n.kind = n'.kind) (r : Rule) :
    r.message n = r.message n' := by
  have hhint : n.selectorHint? = n'.selectorHint? := by
    rw [Node.selectorHint?, Node.selectorHint?, h]
  cases r <;> simp only [message, remark, hhint]

namespace Occurrence

variable {scope scope' : Scope Node} {o o' : Occurrence} {r : Rule}

/-- The kinds that the rules look at: that of the node and those of the nodes above it. -/
def tags (o : Occurrence) : List Tag := (o.node :: o.above).map Node.tag

/-- The kind of the container of an occurrence is read off the kinds above it. -/
lemma container_map_tag (scope : Scope Node) (o : Occurrence) :
    (o.container scope).map Node.tag =
      ((o.above.map Node.tag).find? fun tag => tag ∉ Tag.wrappers).or (scope.map Node.tag) := by
  rw [container, Option.map_or, List.find?_map]
  rfl

/-- Which rules an occurrence breaks depends on kinds alone. -/
lemma breaks_iff :
    o.Breaks scope r ↔ ∃ container,
      ((o.above.map Node.tag).find? fun tag => tag ∉ Tag.wrappers).or (scope.map Node.tag) =
        some container ∧ r.Decides container o.node.tag := by
  rw [← container_map_tag]
  constructor
  · rintro ⟨p, hp, hr⟩
    exact ⟨p.tag, by rw [hp, Option.map_some], hr⟩
  · rintro ⟨container, hc, hr⟩
    obtain ⟨p, hp, rfl⟩ := Option.map_eq_some_iff.1 hc
    exact ⟨p, hp, hr⟩

lemma breaks_congr (hscope : scope.map Node.tag = scope'.map Node.tag) (h : o.tags = o'.tags) :
    o.Breaks scope r ↔ o'.Breaks scope' r := by
  obtain ⟨hnode, habove⟩ := List.cons.inj h
  rw [breaks_iff, breaks_iff, hnode, habove, hscope]

end Occurrence

namespace Nesting

variable {scope scope' : Scope Node} {o : Occurrence} {r : Rule} {os os' : List Occurrence}

/-- An occurrence with the rule that it breaks. -/
def breach? (scope : Scope Node) (o : Occurrence) : Option (Occurrence × Rule) :=
  (violation? (o.container scope) o.node).map fun v => (o, v.1)

/-- The first of some occurrences that breaks a rule, and the rule. -/
def firstAmong (scope : Scope Node) (os : List Occurrence) : Option (Occurrence × Rule) :=
  os.findSome? (breach? scope)

lemma breach?_eq_some_iff {b : Occurrence × Rule} :
    breach? scope o = some b ↔ b.1 = o ∧ o.Breaks scope b.2 := by
  rw [breach?, Option.map_eq_some_iff]
  constructor
  · rintro ⟨⟨r, p⟩, hv, rfl⟩
    exact ⟨rfl, p, violation?_eq_some_iff.1 hv⟩
  · rintro ⟨hb, p, hp⟩
    exact ⟨(b.2, p), violation?_eq_some_iff.2 hp, by rw [← hb]⟩

lemma breach?_eq_none_iff : breach? scope o = none ↔ ∀ r, ¬ o.Breaks scope r := by
  rw [Option.eq_none_iff_forall_ne_some]
  constructor
  · exact fun h r hr => h (o, r) (breach?_eq_some_iff.2 ⟨rfl, hr⟩)
  · exact fun h b hb => h b.2 (breach?_eq_some_iff.1 hb).2

lemma firstAmong_append :
    firstAmong scope (os ++ os') = (firstAmong scope os).or (firstAmong scope os') :=
  List.findSome?_append

lemma firstAmong_eq_none_iff :
    firstAmong scope os = none ↔ ∀ o ∈ os, ∀ r, ¬ o.Breaks scope r := by
  rw [firstAmong, List.findSome?_eq_none_iff]
  exact forall₂_congr fun o _ => breach?_eq_none_iff

lemma firstAmong_occurrences_eq_some_iff {t : Node} :
    firstAmong scope t.occurrences = some (o, r) ↔ FirstBreach scope t o r := by
  rw [firstAmong, List.findSome?_eq_some_iff]
  constructor
  · rintro ⟨before, a, after, heq, ha, hbefore⟩
    obtain ⟨rfl, hr⟩ := breach?_eq_some_iff.1 ha
    exact ⟨⟨before, after, heq, fun b hb => breach?_eq_none_iff.1 (hbefore b hb)⟩, hr⟩
  · rintro ⟨⟨before, after, heq, hbefore⟩, hr⟩
    exact ⟨before, o, after, heq, breach?_eq_some_iff.2 ⟨rfl, hr⟩,
      fun b hb => breach?_eq_none_iff.2 (hbefore b hb)⟩

/-- A check fails with what its first breach raises. -/
lemma visit_failure_eq_map (scope : Scope Node) (t : Node) :
    (visit scope t).failure = (firstAmong scope t.occurrences).map fun b => b.1.raise b.2 := by
  rw [visit_failure_eq_findSome?, firstAmong, List.map_findSome?]
  congr 1
  funext o
  rw [raised?, Function.comp_apply, breach?, Option.map_map]
  rfl

section Matched

variable {R : Occurrence → Occurrence → Prop} {S : Failure → Failure → Prop}

/-- Where occurrences match one by one and matched ones break the same rules, the first breaches
match, too. -/
lemma rel_firstAmong (matched : List.Forall₂ R os os')
    (hbreaks : ∀ {o o'}, R o o' → ∀ r, o.Breaks scope r ↔ o'.Breaks scope' r) :
    Option.Rel (fun b b' => R b.1 b'.1 ∧ b.2 = b'.2) (firstAmong scope os)
      (firstAmong scope' os') := by
  induction matched with
  | nil => exact .none
  | @cons o o' os os' hR _ ih =>
      simp only [firstAmong, List.findSome?_cons] at ih ⊢
      cases h : breach? scope o with
      | none =>
          have h' := breach?_eq_none_iff.2 fun r hr =>
            breach?_eq_none_iff.1 h r ((hbreaks hR r).2 hr)
          rw [h']
          exact ih
      | some b =>
          obtain ⟨hb, hr⟩ := breach?_eq_some_iff.1 h
          have h' := breach?_eq_some_iff (b := (o', b.2)).2 ⟨rfl, (hbreaks hR b.2).1 hr⟩
          rw [h']
          exact .some ⟨hb ▸ hR, rfl⟩

lemma firstAmong_eq_none_congr (matched : List.Forall₂ R os os')
    (hbreaks : ∀ {o o'}, R o o' → ∀ r, o.Breaks scope r ↔ o'.Breaks scope' r) :
    firstAmong scope os = none ↔ firstAmong scope' os' = none := by
  have hrel := rel_firstAmong matched hbreaks
  generalize firstAmong scope os = b, firstAmong scope' os' = b' at hrel ⊢
  cases hrel with
  | none => rfl
  | some _ => simp

/-- Two checks of matched trees agree on the verdict, and their failures are related as those that
matched breaches raise. -/
theorem rel_failure {t t' : Node} (matched : List.Forall₂ R t.occurrences t'.occurrences)
    (hbreaks : ∀ {o o'}, R o o' → ∀ r, o.Breaks scope r ↔ o'.Breaks scope' r)
    (hraise : ∀ {o o' r}, FirstBreach scope t o r → FirstBreach scope' t' o' r → R o o' →
      S (o.raise r) (o'.raise r)) :
    Option.Rel S (visit scope t).failure (visit scope' t').failure := by
  have hrel := rel_firstAmong matched hbreaks
  rw [visit_failure_eq_map, visit_failure_eq_map]
  generalize h : firstAmong scope t.occurrences = b, h' : firstAmong scope' t'.occurrences = b'
    at hrel
  cases hrel with
  | none => exact .none
  | @some b b' hb =>
      obtain ⟨o, r⟩ := b
      obtain ⟨o', r'⟩ := b'
      obtain ⟨hR, rfl⟩ := hb
      exact .some (hraise (firstAmong_occurrences_eq_some_iff.1 h)
        (firstAmong_occurrences_eq_some_iff.1 h') hR)

end Matched

end Nesting

end SheetCheck
