import Mathlib.Data.List.Basic
import SheetCheck.Node.OfValue

/-!
# Members, one by one

What is read from an object is a fold over its members, with one step for a member, and what is read
from an array takes one item after the other.
-/

namespace SheetCheck

open Json (Cause Value)

namespace Kind

/-- The tag among the members that have been seen, if it was there, and the other members, the last
one first. -/
abbrev Split := Option Tag × List (String × Value)

namespace Split

/-- One more member is seen. -/
def step (s : Split) (m : String × Value) : Except Cause Split :=
  if m.1 = "type" then
    match s.1 with
    | some _ => .error (.duplicateField m.1)
    | none => do return (some (← tagOfValue m.2), s.2)
  else .ok (s.1, m :: s.2)

/-- The tag, which must have been there, and all else. -/
def finish (s : Split) : Except Cause (Tag × Payload) :=
  match s.1 with
  | some tag => .ok (tag, .members s.2.reverse)
  | none => .error (.missingField "type")

end Split

lemma splitMembers_eq_foldlM (ms : List (String × Value)) (s : Split) :
    splitMembers s.1 s.2 ms = ms.foldlM Split.step s >>= Split.finish := by
  induction ms generalizing s with
  | nil => rfl
  | cons m ms ih =>
      obtain ⟨key, v⟩ := m
      obtain ⟨tag, others⟩ := s
      rw [List.foldlM_cons, bind_assoc, Split.step]
      by_cases hkey : key = "type"
      · cases tag with
        | some tag => simp only [splitMembers, hkey, if_true]; rfl
        | none =>
            simp only [splitMembers, hkey, if_true, bind_assoc]
            exact bind_congr fun tag => ih (some tag, others)
      · simp only [splitMembers, hkey, if_false]
        exact ih (tag, (key, v) :: others)

lemma ofValue_object (ms : List (String × Value)) :
    ofValue (.object ms) = splitMembers none [] ms >>= fun q => ofPayload q.1 q.2 := rfl

lemma ofValue_array (v : Value) (vs : List Value) :
    ofValue (.array (v :: vs)) =
      ((fun tag => (tag, .items vs)) <$> tagOfValue v) >>= fun q => ofPayload q.1 q.2 := by
  rw [bind_map_left]
  rfl

end Kind

namespace Property

/-- One more member of a property is met. -/
def Met.add (met : Met) (m : String × Value) : Except Cause Met :=
  if m.1 = "name" then
    if met.name.isSome then .error (.duplicateField m.1)
    else do return { met with name := some (← Payload.text m.2) }
  else if m.1 = "value" then
    if met.value.isSome then .error (.duplicateField m.1)
    else do return { met with value := some (← PropertyValue.ofJson m.2) }
  else if m.1 = "syntax" then
    if met.style.isSome then .error (.duplicateField m.1)
    else do return { met with style := some (← Style.ofJson m.2) }
  else .ok met

lemma ofMembers_eq_foldlM (ms : List (String × Value)) (met : Met) :
    ofMembers met ms = ms.foldlM Met.add met >>= (ofMembers · []) := by
  induction ms generalizing met with
  | nil => rfl
  | cons m ms ih =>
      obtain ⟨key, v⟩ := m
      rw [List.foldlM_cons, bind_assoc, ofMembers, Met.add]
      split
      repeat' split
      all_goals first
        | rfl
        | exact ih met
        | rw [bind_assoc]; exact bind_congr fun _ => ih _

end Property

namespace Node

/-- One more member of a node is met, where `kindOf` and `childrenOf` tell what its value holds. -/
def Met.addWith (kindOf : Value → Except Cause Kind) (childrenOf : Value → Except Cause (List Node))
    (met : Met) (m : String × Value) : Except Cause Met :=
  if met.has m.1 then .error (.duplicateField m.1)
  else if m.1 = "kind" then do return { met with kind := some (← kindOf m.2) }
  else if m.1 = "children" then do return { met with children := some (← childrenOf m.2) }
  else if m.1 = "filename" then do return { met with filename := some (← filenameOfValue m.2) }
  else if m.1 = "line" then do return { met with line := some (← lineOfValue m.2) }
  else .ok met

/-- One more member of a node is met. -/
abbrev Met.add : Met → String × Value → Except Cause Met := addWith Kind.ofValue childrenOfValue

lemma ofMembers_eq_foldlM (ms : List (String × Value)) (met : Met) :
    ofMembers met ms = ms.foldlM Met.add met >>= Met.node := by
  induction ms generalizing met with
  | nil => rw [ofMembers]; rfl
  | cons m ms ih =>
      obtain ⟨key, v⟩ := m
      rw [List.foldlM_cons, bind_assoc, ofMembers, Met.add, Met.addWith]
      repeat' split
      all_goals first
        | rfl
        | exact ih met
        | rw [bind_assoc]; exact bind_congr fun _ => ih _

lemma ofValues_eq_mapM (vs : List Value) : ofValues vs = vs.mapM ofValue := by
  induction vs with
  | nil => rw [ofValues]; rfl
  | cons v vs ih => rw [ofValues, List.mapM_cons, ih]; rfl

/-- The first of some items, if there is one. -/
def itemOfValue? {α : Type} (missing : α) (f : Value → Except Cause α) : List Value → Except Cause α
  | [] => .ok missing
  | v :: _ => f v

/-- Refuses items behind the first `wanted` ones. -/
def noMoreItems (wanted : ℕ) (vs : List Value) : Except Cause Unit :=
  if vs.length ≤ wanted then .ok ()
  else .error (.wrongLength (vs.length + 1) "fewer elements in array")

/-- A node from an array takes up to four items. -/
lemma ofValue_array (kind : Value) (vs : List Value) :
    ofValue (.array (kind :: vs)) = (do
      let kind ← Kind.ofValue kind
      let children ← itemOfValue? [] childrenOfValue vs
      let filename ← itemOfValue? none filenameOfValue vs.tail
      let line ← itemOfValue? 0 lineOfValue vs.tail.tail
      pure ⟨kind, children, filename, line⟩) >>= fun n => (fun _ => n) <$> noMoreItems 3 vs := by
  simp only [bind_assoc, pure_bind]
  match vs with
  | [] => rw [ofValue]; rfl
  | [children] => rw [ofValue]; rfl
  | [children, filename] => rw [ofValue]; rfl
  | [children, filename, line] => rw [ofValue]; rfl
  | children :: filename :: line :: other :: rest =>
      have hmore : ¬ (filename :: line :: other :: rest).length ≤ 2 := by
        simp only [List.length_cons]
        omega
      have hmore' : ¬ (children :: filename :: line :: other :: rest).length ≤ 3 := by
        simp only [List.length_cons]
        omega
      rw [ofValue, noMoreItems, if_neg hmore']
      refine bind_congr fun kind => bind_congr fun children => bind_congr fun filename =>
        bind_congr fun line => ?_
      exact if_neg hmore

end Node

end SheetCheck
