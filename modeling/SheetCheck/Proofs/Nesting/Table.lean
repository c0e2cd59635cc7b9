import Mathlib.Data.List.Basic
import SheetCheck.Nesting.Rule

/-!
# The table of the nesting rules

The rules as a table, one row for each of them: its title, the kinds of container and member for
which it fires, and its wording.  Two rules speak for containers and restrict what these hold, all
others speak for members and restrict where these stand.  A rule decides about a member when it
fires and, if it speaks for the member, no rule of the container does.

The check looks rules up by the kinds of the two nodes instead; `Rule.broken?_eq_some_iff` says
that it finds the rule that decides.  What it reports is what the table says (`Rule.name_eq_title`,
`Rule.sentence_eq_wording`).
-/

namespace SheetCheck

namespace Rule

/-- The party for which a rule speaks. -/
inductive Side where
  | container
  | member
deriving DecidableEq, Repr

/-- The party for which each rule speaks. -/
def side : Rule → Side
  | functionChild | propertyChild => .container
  | _ => .member

/-- The title of each rule. -/
def title : Rule → String
  | charsetParent => "charset_parent"
  | extendParent => "extend_parent"
  | functionParent => "function_parent"
  | functionChild => "function_child"
  | importParent => "import_parent"
  | mixinDefParent => "mixindef_parent"
  | propertyChild => "prop_child"
  | propertyParent => "prop_parent"
  | returnParent => "return_parent"

/-- The wording of each rule, which is told when the rule is broken. -/
def wording : Rule → String
  | charsetParent => "@charset may only be used at the root of a document."
  | extendParent => "Extend directives may only be used within rules."
  | functionParent => "Functions may only be defined at the root of a document."
  | functionChild => "Functions can only contain variable declarations and control directives."
  | importParent => "Import directives may only be used at the root of a document."
  | mixinDefParent => "Mixins may only be defined at the root of a document."
  | propertyChild => "Illegal nesting: Only properties may be nested beneath properties."
  | propertyParent =>
    "Properties are only allowed within rules, directives, or other properties."
  | returnParent => "@return may only be used within a function."

/-- The rule fires when a node of kind `member` stands in a container of kind `container`. -/
def Fires (container member : Tag) : Rule → Prop
  | charsetParent => member = .charset ∧ container ≠ .root
  | extendParent => member = .extend ∧ container ∉ [.rule, .mixinDef]
  | functionParent => member = .function ∧ container ≠ .root
  | functionChild =>
      container = .function ∧
        member ∉ [.comment, .debug, .eachLoop, .forLoop, .ifBranch, .returnValue, .variableDef,
          .warn, .whileLoop]
  | importParent => member = .importSheet ∧ container ≠ .root
  | mixinDefParent => member = .mixinDef ∧ container ≠ .root
  | propertyChild => container = .property ∧ member ∉ [.comment, .property]
  | propertyParent =>
      member = .property ∧ container ∉ [.rule, .property, .mixinDef, .directive, .media]
  | returnParent => member = .returnValue ∧ container ≠ .function

/-- The rule fires, and no rule of the container takes precedence over it. -/
def Decides (container member : Tag) (r : Rule) : Prop :=
  r.Fires container member ∧
    (r.side = .member → ∀ s : Rule, s.side = .container → ¬ s.Fires container member)

variable {container member : Tag} {r : Rule}

lemma name_eq_title (r : Rule) : r.name = r.title := by
  cases r <;> rfl

lemma sentence_eq_wording (r : Rule) : r.sentence = r.wording := by
  cases r <;> rfl

lemma side_of_ofContainer? (h : ofContainer? container = some r) : r.side = .container := by
  cases container <;> simp_all [ofContainer?] <;> subst h <;> rfl

lemma side_of_ofMember? (h : ofMember? member = some r) : r.side = .member := by
  cases member <;> simp_all [ofMember?] <;> subst h <;> rfl

lemma isDirective_iff {tag : Tag} : tag.isDirective = true ↔ tag = .directive ∨ tag = .media := by
  cases tag <;> decide

/-- A rule of the container fires exactly when it is found for the container and does not allow
the member. -/
lemma fires_iff_of_container (h : r.side = .container) :
    r.Fires container member ↔
      ofContainer? container = some r ∧ r.allows container member = false := by
  cases r <;> simp only [side, reduceCtorEq] at h <;>
    cases container <;> simp [Fires, ofContainer?, allows]

/-- A rule of the member fires exactly when it is found for the member and does not allow the
container. -/
lemma fires_iff_of_member (h : r.side = .member) :
    r.Fires container member ↔
      ofMember? member = some r ∧ r.allows container member = false := by
  cases r <;> simp only [side, reduceCtorEq] at h <;>
    cases member <;> simp [Fires, ofMember?, allows, isDirective_iff, and_comm, and_assoc]

lemma bind_fires_eq_some_iff {found : Option Rule} :
    (found.bind fun s => if s.allows container member then none else some s) = some r ↔
      found = some r ∧ r.allows container member = false := by
  rw [Option.bind_eq_some_iff]
  constructor
  · rintro ⟨s, hs, hr⟩
    split at hr
    · exact absurd hr (by simp)
    · next hallows =>
        obtain rfl := Option.some.inj hr
        exact ⟨hs, Bool.eq_false_iff.2 hallows⟩
  · rintro ⟨hr, hallows⟩
    exact ⟨r, hr, by simp [hallows]⟩

/-- The rule that the check finds is the one that decides by the table. -/
theorem broken?_eq_some_iff :
    broken? container member = some r ↔ r.Decides container member := by
  simp only [broken?]
  split
  · next s hs =>
      obtain ⟨hfound, hallows⟩ := bind_fires_eq_some_iff.1 hs
      have hside := side_of_ofContainer? hfound
      have hfires : s.Fires container member :=
        (fires_iff_of_container hside).2 ⟨hfound, hallows⟩
      constructor
      · intro h
        obtain rfl := Option.some.inj h
        exact ⟨hfires, fun hmember => absurd (hside.symm.trans hmember) (by decide)⟩
      · rintro ⟨hr, hprec⟩
        cases hr' : r.side with
        | member => exact absurd hfires (hprec hr' s hside)
        | container =>
            -- one container has one rule, so that both are the same
            rw [← hfound, ((fires_iff_of_container hr').1 hr).1]
  · next hnone =>
      have hquiet : ∀ s : Rule, s.side = .container → ¬ s.Fires container member := by
        intro s hs hfires
        have hsome := bind_fires_eq_some_iff.2 ((fires_iff_of_container hs).1 hfires)
        exact absurd (hnone.symm.trans hsome) (by simp)
      rw [bind_fires_eq_some_iff]
      constructor
      · rintro ⟨hfound, hallows⟩
        exact ⟨(fires_iff_of_member (side_of_ofMember? hfound)).2 ⟨hfound, hallows⟩,
          fun _ => hquiet⟩
      · rintro ⟨hr, -⟩
        cases hr' : r.side with
        | container => exact absurd hr (hquiet r hr')
        | member => exact (fires_iff_of_member hr').1 hr

/-- About two nodes at most one rule decides. -/
lemma Decides.unique {s : Rule} (hr : r.Decides container member)
    (hs : s.Decides container member) : r = s :=
  Option.some.inj ((broken?_eq_some_iff.2 hr).symm.trans (broken?_eq_some_iff.2 hs))

/-- Where no rule decides, none fires: a rule that fires decides unless another one does. -/
lemma forall_not_decides_iff :
    (∀ s : Rule, ¬ s.Decides container member) ↔ ∀ s : Rule, ¬ s.Fires container member := by
  constructor
  · intro h
    have hquiet : ∀ s : Rule, s.side = .container → ¬ s.Fires container member :=
      fun s hs hfires => h s ⟨hfires, fun hmember => absurd (hs.symm.trans hmember) (by decide)⟩
    exact fun s hfires => h s ⟨hfires, fun _ => hquiet⟩
  · exact fun h s hs => h s hs.1

end Rule

end SheetCheck
