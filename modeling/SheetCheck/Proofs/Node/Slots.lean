import Mathlib.Data.List.Basic
import SheetCheck.Proofs.Node.Members

/-!
# Slots

A part of a tree is written as an object or as an array.  Both tell the same things: `Slot` is one
of them, with the name it has in an object.  In an object the members may stand in any order and
others may stand between them; in an array the things are told in their order.  What is optional may
be left out, in an array only at the end.

An object is read correctly because under the name of a slot there is one member that tells it, or
none if it is optional (`Slot.FoundIn`).
-/

namespace SheetCheck

open Json (Cause Value)

/-- One of the things that are told about a part of a tree. -/
structure Slot where
  /-- Its name in an object. -/
  name : String
  /-- The values that tell it. -/
  Spells : Value → Prop
  /-- Whether it may be left out. -/
  optional : Prop

/-- A text that has to be told. -/
def Slot.text (name text : String) : Slot := ⟨name, (· = .string text), False⟩

/-- Members that tell some things in their order, where those that are optional may be missing. -/
inductive KeptMembers : List Slot → List (String × Value) → Prop
  | nil : KeptMembers [] []
  | keep {slot : Slot} {slots : List Slot} {v : Value} {ms : List (String × Value)} :
      slot.Spells v → KeptMembers slots ms → KeptMembers (slot :: slots) ((slot.name, v) :: ms)
  | leave {slot : Slot} {slots : List Slot} {ms : List (String × Value)} :
      slot.optional → KeptMembers slots ms → KeptMembers (slot :: slots) ms

/-- Items that tell some things in their order, where the last ones may be missing if they are
optional. -/
inductive KeptItems : List Slot → List Value → Prop
  | done {slots : List Slot} : (∀ slot ∈ slots, slot.optional) → KeptItems slots []
  | item {slot : Slot} {slots : List Slot} {v : Value} {vs : List Value} :
      slot.Spells v → KeptItems slots vs → KeptItems (slot :: slots) (v :: vs)

/-- A value that tells some things: as the members of an object, in any order and with others under
names of their own, or as the items of an array. -/
inductive SpelledBy (slots : List Slot) : Value → Prop
  | object {kept others ms : List (String × Value)} :
      KeptMembers slots kept → (∀ m ∈ others, ∀ slot ∈ slots, m.1 ≠ slot.name) →
      ms.Perm (kept ++ others) → SpelledBy slots (.object ms)
  | array {vs : List Value} : KeptItems slots vs → SpelledBy slots (.array vs)

/-- The members alone, in the order of the slots. -/
lemma SpelledBy.of_kept {slots : List Slot} {ms kept : List (String × Value)}
    (h : KeptMembers slots kept) (hperm : ms.Perm kept) : SpelledBy slots (.object ms) :=
  @SpelledBy.object _ _ [] _ h (by simp) (by rwa [List.append_nil])

/-! ### Members of a name -/

/-- The members with a name. -/
def named (name : String) (ms : List (String × Value)) : List (String × Value) :=
  ms.filter (·.1 = name)

section Named

variable {name : String} {m : String × Value} {ms : List (String × Value)}

@[simp] lemma named_nil : named name [] = [] := rfl

lemma named_cons_of_eq (h : m.1 = name) : named name (m :: ms) = m :: named name ms :=
  List.filter_cons_of_pos (by simpa using h)

lemma named_cons_of_ne (h : m.1 ≠ name) : named name (m :: ms) = named name ms :=
  List.filter_cons_of_neg (by simpa using h)

lemma named_cons_eq_nil_iff : named name (m :: ms) = [] ↔ m.1 ≠ name ∧ named name ms = [] := by
  by_cases h : m.1 = name
  · simp [named_cons_of_eq h, h]
  · simp [named_cons_of_ne h, h]

/-- The only member with a name comes first, or another one does. -/
lemma named_cons_eq_singleton_iff {v : Value} : named name (m :: ms) = [(name, v)] ↔
    m = (name, v) ∧ named name ms = [] ∨ m.1 ≠ name ∧ named name ms = [(name, v)] := by
  by_cases h : m.1 = name
  · simp [named_cons_of_eq h, h]
  · have hne : m ≠ (name, v) := fun hm => h (congrArg Prod.fst hm)
    simp [named_cons_of_ne h, h, hne]

lemma named_append (ms ms' : List (String × Value)) :
    named name (ms ++ ms') = named name ms ++ named name ms' :=
  List.filter_append ms ms'

lemma named_eq_nil_iff : named name ms = [] ↔ ∀ m ∈ ms, m.1 ≠ name := by
  simp [named, List.filter_eq_nil_iff]

/-- Members with other names make no difference. -/
lemma named_filter_ne {other : String} (h : name ≠ other) :
    named name (ms.filter (·.1 ≠ other)) = named name ms := by
  rw [named, List.filter_filter]
  refine List.filter_congr fun m _ => ?_
  by_cases hm : m.1 = name
  · simp [hm, h]
  · simp [hm]

end Named

namespace Slot

/-- Under the name of the slot there is one member that tells it, or none if it is optional. -/
def FoundIn (slot : Slot) (ms : List (String × Value)) : Prop :=
  (∃ v, slot.Spells v ∧ named slot.name ms = [(slot.name, v)]) ∨
    slot.optional ∧ named slot.name ms = []

variable {slot : Slot} {slots : List Slot} {kept others ms : List (String × Value)}

lemma FoundIn.of_filter_ne {other : String} (h : slot.FoundIn ms) (hne : slot.name ≠ other) :
    slot.FoundIn (ms.filter (·.1 ≠ other)) := by
  rwa [FoundIn, named_filter_ne hne]

lemma FoundIn.of_perm (hperm : ms.Perm kept) (h : slot.FoundIn kept) : slot.FoundIn ms := by
  have hnamed : (named slot.name ms).Perm (named slot.name kept) := hperm.filter _
  rcases h with ⟨v, hv, hkept⟩ | ⟨hoptional, hkept⟩
  · rw [hkept, List.perm_singleton] at hnamed
    exact .inl ⟨v, hv, hnamed⟩
  · rw [hkept, List.perm_nil] at hnamed
    exact .inr ⟨hoptional, hnamed⟩

lemma FoundIn.named_eq {name text : String} (h : (Slot.text name text).FoundIn ms) :
    named name ms = [(name, .string text)] := by
  rcases h with ⟨_, rfl, h⟩ | ⟨hoptional, -⟩
  · exact h
  · exact hoptional.elim

end Slot

namespace KeptMembers

variable {slots : List Slot} {kept others ms : List (String × Value)}

/-- A name that no slot has is not the name of a member. -/
lemma named_eq_nil {name : String} (h : KeptMembers slots kept)
    (hname : ∀ slot ∈ slots, slot.name ≠ name) : named name kept = [] := by
  induction h with
  | nil => rfl
  | keep _ _ ih =>
      rw [named_cons_of_ne (hname _ List.mem_cons_self)]
      exact ih fun slot hslot => hname slot (.tail _ hslot)
  | leave _ _ ih => exact ih fun slot hslot => hname slot (.tail _ hslot)

lemma foundIn (h : KeptMembers slots kept) (hnames : (slots.map Slot.name).Nodup) :
    ∀ slot ∈ slots, slot.FoundIn kept := by
  induction h with
  | nil => simp
  | @keep first slots v kept hv h ih =>
      rw [List.map_cons, List.nodup_cons] at hnames
      rintro slot (_ | ⟨_, hslot⟩)
      · have hrest : named first.name kept = [] :=
          h.named_eq_nil fun slot hslot hne => hnames.1 (hne ▸ List.mem_map_of_mem hslot)
        exact .inl ⟨v, hv, by rw [named_cons_of_eq (m := (first.name, v)) rfl, hrest]⟩
      · have hne : first.name ≠ slot.name := fun hne => hnames.1 (hne ▸ List.mem_map_of_mem hslot)
        rw [Slot.FoundIn, named_cons_of_ne hne]
        exact ih hnames.2 slot hslot
  | @leave first slots kept hoptional h ih =>
      rw [List.map_cons, List.nodup_cons] at hnames
      rintro slot (_ | ⟨_, hslot⟩)
      · exact .inr ⟨hoptional, h.named_eq_nil fun slot hslot hne =>
          hnames.1 (hne ▸ List.mem_map_of_mem hslot)⟩
      · exact ih hnames.2 slot hslot

/-- Neither the order of the members nor others between them make a difference. -/
lemma foundIn_of_perm (h : KeptMembers slots kept) (hnames : (slots.map Slot.name).Nodup)
    (hothers : ∀ m ∈ others, ∀ slot ∈ slots, m.1 ≠ slot.name) (hperm : ms.Perm (kept ++ others)) :
    ∀ slot ∈ slots, slot.FoundIn ms := by
  intro slot hslot
  have hfound := h.foundIn hnames slot hslot
  have hnamed : named slot.name (kept ++ others) = named slot.name kept := by
    have hnone : named slot.name others = [] :=
      named_eq_nil_iff.2 fun m hm => hothers m hm slot hslot
    rw [named_append, hnone, List.append_nil]
  refine Slot.FoundIn.of_perm hperm ?_
  rwa [Slot.FoundIn, hnamed]

end KeptMembers

namespace KeptItems

variable {slot : Slot} {slots : List Slot} {vs : List Value}

lemma length_le (h : KeptItems slots vs) : vs.length ≤ slots.length := by
  induction h with
  | done => exact Nat.zero_le _
  | item _ _ ih => exact Nat.succ_le_succ ih

lemma tail (h : KeptItems (slot :: slots) vs) : KeptItems slots vs.tail := by
  cases h with
  | done hoptional => exact .done fun slot hslot => hoptional slot (.tail _ hslot)
  | item _ h => exact h

lemma eq_nil (h : KeptItems [] vs) : vs = [] := by
  cases h
  rfl

lemma exists_cons {name text : String} (h : KeptItems (.text name text :: slots) vs) :
    ∃ us, vs = .string text :: us ∧ KeptItems slots us := by
  cases h with
  | done hoptional => exact (hoptional _ List.mem_cons_self).elim
  | item hv h => exact ⟨_, by rw [hv], h⟩

end KeptItems

/-! ### Reading what a slot tells -/

section Read

variable {α : Type} {f : Value → Except Cause α} {slot : Slot} {a d : α}

/-- The only value among some members, read by `f`; a second one is refused. -/
def onlyMember (f : Value → Except Cause α) : Option α → List (String × Value) →
    Except Cause (Option α)
  | found, [] => .ok found
  | none, m :: ms => do onlyMember f (some (← f m.2)) ms
  | some _, m :: _ => .error (.duplicateField m.1)

/-- Where the only value has been read, it was the first and is not followed by others. -/
lemma onlyMember_named_cons {name : String} {m : String × Value} {ms : List (String × Value)}
    {found result : Option α} (hm : m.1 = name)
    (h : onlyMember f found (named name (m :: ms)) = .ok result) :
    found = none ∧ ∃ a, f m.2 = .ok a ∧ onlyMember f (some a) (named name ms) = .ok result := by
  rw [named_cons_of_eq hm] at h
  cases found with
  | some a => simp [onlyMember] at h
  | none =>
      rw [onlyMember] at h
      cases ha : f m.2 with
      | error c =>
          rw [ha] at h
          cases h
      | ok a =>
          rw [ha] at h
          exact ⟨rfl, a, rfl, h⟩

/-- The only value under the name of a slot is the one that tells it, or it is missing and `d` is
told. -/
lemma Slot.FoundIn.onlyMember_eq_ok {ms : List (String × Value)} (h : slot.FoundIn ms)
    (hf : ∀ v, slot.Spells v → f v = .ok a) (hd : slot.optional → a = d) :
    ∃ found, onlyMember f none (named slot.name ms) = .ok found ∧ found.getD d = a := by
  rcases h with ⟨v, hv, hnamed⟩ | ⟨hoptional, hnamed⟩
  · refine ⟨some a, ?_, rfl⟩
    rw [hnamed, onlyMember, hf v hv]
    rfl
  · refine ⟨none, ?_, (hd hoptional).symm⟩
    rw [hnamed, onlyMember]

/-- What is not optional is found. -/
lemma Slot.FoundIn.onlyMember_eq_some {ms : List (String × Value)} (h : slot.FoundIn ms)
    (hf : ∀ v, slot.Spells v → f v = .ok a) (hneeded : ¬ slot.optional) :
    onlyMember f none (named slot.name ms) = .ok (some a) := by
  rcases h with ⟨v, hv, hnamed⟩ | ⟨hoptional, -⟩
  · rw [hnamed, onlyMember, hf v hv]
    rfl
  · exact (hneeded hoptional).elim

lemma KeptItems.itemOfValue?_eq_ok {slots : List Slot} {vs : List Value}
    (h : KeptItems (slot :: slots) vs) (hf : ∀ v, slot.Spells v → f v = .ok a)
    (hd : slot.optional → a = d) : Node.itemOfValue? d f vs = .ok a := by
  cases h with
  | done hoptional => rw [Node.itemOfValue?, hd (hoptional slot List.mem_cons_self)]
  | item hv _ => exact hf _ hv

end Read

end SheetCheck
