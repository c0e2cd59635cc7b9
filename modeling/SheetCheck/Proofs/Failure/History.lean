import SheetCheck.Proofs.Failure.Fill

/-!
# The history of a failure

Whoever handles a failure can do four things to it, in any order and any number of times: record a
rule, fill in a place, add a frame and attach a source.  What the failure tells in the end can be
read off the history of these steps.  The last rule counts, and the first source.  There is one
frame for the failure itself and one for every frame added, in this order, and each field of a
frame has the value that the frame was added with or, where that was missing, the first one that
was filled in before a frame that has the field came to stand outside it
(`Failure.toldBy_run`).

The two fields of a frame are independent, so the scan is described for one field.  A frame and the
frames outside it are looked at together with the steps still to come: what the field of the frame
is `due` to hold does not change when one of these steps is taken
(`Frame.IsField.exists_due_apply`), and when none is left, it is what the field holds.
-/

namespace SheetCheck

namespace Failure

/-- What can be done to a failure. -/
inductive Step where
  /-- Record a rule. -/
  | rule (rule : String)
  /-- Fill in what the frames still miss. -/
  | fill (place : Frame)
  /-- Add a frame outside the others. -/
  | add (frame : Frame)
  /-- Attach a source. -/
  | attach (template : Template)
deriving DecidableEq, Repr

namespace Step

/-- A failure after a step. -/
def apply (e : Failure) : Step → Failure
  | rule r => e.withRule r
  | fill g => e.fill g
  | add f => e.addFrame f
  | attach t => e.attach t

/-- The rule that a step records. -/
def rule? : Step → Option String
  | rule r => some r
  | _ => none

/-- The source that a step offers. -/
def template? : Step → Option Template
  | attach t => some t
  | _ => none

/-- The frame that a step adds. -/
def frame? : Step → Option Frame
  | add f => some f
  | _ => none

/-- The value that a step fills into a field. -/
def fills {α : Type} (field : Frame → Option α) : Step → Option α
  | fill g => field g
  | _ => none

/-- Whether a step adds a frame that has a field. -/
def shields {α : Type} (field : Frame → Option α) : Step → Bool
  | add f => (field f).isSome
  | _ => false

end Step

/-- A failure after several steps. -/
def run (e : Failure) (steps : List Step) : Failure := steps.foldl Step.apply e

/-- What later steps fill into a field that a frame misses: the first value, if it comes before a
frame is added that has the field. -/
def firstFilled {α : Type} (field : Frame → Option α) (steps : List Step) : Option α :=
  (steps.takeWhile fun s => !s.shields field).findSome? (Step.fills field)

/-- A frame after the steps that follow its creation. -/
def settled (f : Frame) (later : List Step) : Frame :=
  ⟨f.filename.or (firstFilled Frame.filename later), f.line.or (firstFilled Frame.line later)⟩

/-- What the steps `steps` leave of a failure with the message `message`. -/
structure ToldBy (message : String) (steps : List Step) (e : Failure) : Prop where
  message_eq : e.message = message
  /-- The last rule counts. -/
  rule_eq : e.rule = (steps.filterMap Step.rule?).getLast?
  /-- The first source counts. -/
  template_eq : e.template = (steps.filterMap Step.template?).head?
  /-- One frame for the failure, and one for each frame added. -/
  length_frames : e.frames.length = 1 + (steps.filterMap Step.frame?).length
  /-- The frame of the failure itself starts out unknown. -/
  origin_eq : e.frames[0]? = some (settled .unknown steps)
  /-- The frames added follow in their order. -/
  added (earlier : List Step) (f : Frame) (later : List Step) :
    steps = earlier ++ .add f :: later →
      e.frames[(earlier.filterMap Step.frame?).length + 1]? = some (settled f later)
  /-- A field that was present at some time has not changed since. -/
  kept (earlier later : List Step) :
    steps = earlier ++ later →
      ∀ (j : ℕ) (f : Frame), ((new message).run earlier).frames[j]? = some f →
      ∃ g, e.frames[j]? = some g ∧ (∀ file, f.filename = some file → g.filename = some file) ∧
        ∀ line, f.line = some line → g.line = some line

variable {α : Type} {field : Frame → Option α} (e : Failure) (s : Step) (steps later : List Step)

@[simp] lemma run_nil : e.run [] = e := rfl

@[simp] lemma run_cons : e.run (s :: steps) = (s.apply e).run steps := rfl

lemma run_append : e.run (steps ++ later) = (e.run steps).run later :=
  List.foldl_append

/-! ### Message, rule and source -/

lemma message_run : (e.run steps).message = e.message := by
  induction steps generalizing e with
  | nil => rfl
  | cons s steps ih => rw [run_cons, ih]; cases s <;> rfl

lemma rule_run : (e.run steps).rule = ((steps.filterMap Step.rule?).getLast?).or e.rule := by
  induction steps generalizing e with
  | nil => rfl
  | cons s steps ih =>
      rw [run_cons, ih]
      cases s with
      | rule r =>
          simp only [List.filterMap_cons, Step.rule?, List.getLast?_cons]
          cases (steps.filterMap Step.rule?).getLast? <;> rfl
      | fill | add | attach => rfl

lemma template_run :
    (e.run steps).template = e.template.or (steps.filterMap Step.template?).head? := by
  induction steps generalizing e with
  | nil => simp
  | cons s steps ih =>
      rw [run_cons, ih]
      cases s with
      | attach t => simp [Step.apply, attach, Step.template?]
      | rule | fill | add => rfl

lemma length_frames_apply :
    (s.apply e).frames.length = e.frames.length + s.frame?.toList.length := by
  cases s with
  | fill g => exact Frame.length_fillAll g e.frames
  | add f => rw [Step.apply, frames_addFrame, List.length_append]; rfl
  | rule | attach => rfl

lemma length_frames_run :
    (e.run steps).frames.length = e.frames.length + (steps.filterMap Step.frame?).length := by
  induction steps generalizing e with
  | nil => rfl
  | cons s steps ih =>
      rw [run_cons, ih, length_frames_apply, List.filterMap_cons]
      cases s.frame? with
      | none => rfl
      | some f => simp only [Option.toList_some, List.length_cons, List.length_nil]; omega

/-! ### What is filled in -/

@[simp] lemma firstFilled_nil : firstFilled field [] = none := rfl

lemma firstFilled_cons :
    firstFilled field (s :: steps) =
      if s.shields field then none else (s.fills field).or (firstFilled field steps) := by
  rw [firstFilled, List.takeWhile_cons]
  cases s.shields field with
  | true => rfl
  | false =>
      simp only [Bool.not_false, if_true, Bool.false_eq_true, if_false, List.findSome?_cons]
      cases s.fills field <;> rfl

@[simp] lemma firstFilled_rule (r : String) :
    firstFilled field (.rule r :: steps) = firstFilled field steps := by
  rw [firstFilled_cons]; rfl

@[simp] lemma firstFilled_attach (t : Template) :
    firstFilled field (.attach t :: steps) = firstFilled field steps := by
  rw [firstFilled_cons]; rfl

lemma firstFilled_fill (g : Frame) :
    firstFilled field (.fill g :: steps) = (field g).or (firstFilled field steps) := by
  rw [firstFilled_cons]; rfl

lemma firstFilled_add (g : Frame) :
    firstFilled field (.add g :: steps) =
      if (field g).isSome then none else firstFilled field steps := by
  rw [firstFilled_cons]; rfl

end Failure

namespace Frame.IsField

open Failure

variable {α : Type} {field : Frame → Option α}

/-- What the field of the frame `f` is due to hold after `steps`, when the frames outside it are
`outer`: nothing reaches it past one of them that has the field. -/
def due (field : Frame → Option α) (f : Frame) (outer : List Frame) (steps : List Step) :
    Option α :=
  (field f).or (if ∀ g ∈ outer, field g = none then firstFilled field steps else none)

lemma due_nil (f : Frame) (outer : List Frame) : due field f outer [] = field f := by
  rw [due, firstFilled_nil, ite_self, Option.or_none]

lemma due_of_present {f : Frame} {a : α} (h : field f = some a) (outer : List Frame)
    (steps : List Step) : due field f outer steps = some a := by
  rw [due, h, Option.some_or]

/-- A new frame shuts out what comes later when it has the field. -/
lemma due_add (f g : Frame) (outer : List Frame) (steps : List Step) :
    due field f (outer ++ [g]) steps = due field f outer (.add g :: steps) := by
  rw [due, due, firstFilled_add]
  congr 1
  by_cases hg : field g = none
  · simp [hg, or_imp, forall_and]
  · have hsome : (field g).isSome = true := Option.isSome_iff_ne_none.2 hg
    have hshut : ¬ ∀ e ∈ outer ++ [g], field e = none := fun h => hg (h g (by simp))
    rw [if_neg hshut, if_pos hsome, ite_self]

variable (hfield : IsField field) {e : Failure} {inner outer : List Frame} {f : Frame}
include hfield

/-- A fill does to the field what the scan of the history says. -/
lemma due_fill (g : Frame) (steps : List Step) :
    due field (f.or (fillAll g outer).2) (fillAll g outer).1 steps =
      due field f outer (.fill g :: steps) := by
  rw [due, due, hfield.or, firstFilled_fill, Option.or_assoc]
  congr 1
  by_cases hopen : ∀ e ∈ outer, field e = none
  · rw [if_pos hopen, hfield.rest_of_missing g hopen]
    cases hg : field g with
    | none => rw [if_pos (hfield.missing_fillAll g hg hopen)]
    | some a => rfl
  · have hshut : ∃ e ∈ outer, field e ≠ none := by simpa using hopen
    have hshut' : ¬ ∀ e ∈ (fillAll g outer).1, field e = none := by
      simpa using hfield.present_fillAll g hshut
    rw [if_neg hopen, if_neg hshut', hfield.rest_of_present g hshut, Option.or_none]

/-- One step leaves to every frame what its field is due to hold. -/
lemma exists_due_apply (h : e.frames = inner ++ f :: outer) (s : Step) (steps : List Step) :
    ∃ inner' f' outer', (s.apply e).frames = inner' ++ f' :: outer' ∧
      inner'.length = inner.length ∧
        due field f' outer' steps = due field f outer (s :: steps) := by
  cases s with
  | rule r => exact ⟨inner, f, outer, h, rfl, by rw [due, due, firstFilled_rule]⟩
  | attach t => exact ⟨inner, f, outer, h, rfl, by rw [due, due, firstFilled_attach]⟩
  | fill g =>
      refine ⟨(fillAll (f.blocks (fillAll g outer).2) inner).1, f.or (fillAll g outer).2,
        (fillAll g outer).1, ?_, length_fillAll _ _, hfield.due_fill g steps⟩
      rw [Step.apply, frames_fill, h, fillAll_append, fillAll]
  | add g =>
      refine ⟨inner, f, outer ++ [g], ?_, rfl, due_add f g outer steps⟩
      rw [Step.apply, frames_addFrame, h, List.append_assoc, List.cons_append]

/-- After the last step every field holds what it was due to hold. -/
lemma getElem?_frames_run (h : e.frames = inner ++ f :: outer) (steps : List Step) :
    ((e.run steps).frames[inner.length]?).map field = some (due field f outer steps) := by
  induction steps generalizing e inner f outer with
  | nil => rw [run_nil, h, List.getElem?_append_right (Nat.le_refl _), due_nil]; simp
  | cons s steps ih =>
      obtain ⟨inner', f', outer', h', hlength, hdue⟩ := hfield.exists_due_apply h s steps
      rw [run_cons, ← hlength, ih h', hdue]

end Frame.IsField

namespace Failure

open Frame.IsField

/-- The outermost frame after further steps. -/
lemma getElem?_frames_run_of_last {e : Failure} {inner : List Frame} {f : Frame}
    (h : e.frames = inner ++ [f]) (steps : List Step) :
    (e.run steps).frames[inner.length]? = some (settled f steps) := by
  have hfile := Frame.isField_filename.getElem?_frames_run h steps
  have hline := Frame.isField_line.getElem?_frames_run h steps
  obtain ⟨g, hg, hfile⟩ := Option.map_eq_some_iff.1 hfile
  obtain ⟨g', hg', hline⟩ := Option.map_eq_some_iff.1 hline
  obtain rfl : g = g' := Option.some.inj (hg.symm.trans hg')
  obtain ⟨file, line⟩ := g
  simp only [due, List.not_mem_nil, false_imp_iff, implies_true, if_true] at hfile hline
  rw [hg, hfile, hline, settled]

/-- A field that is present stays as it is. -/
lemma exists_getElem?_frames_run {e : Failure} {j : ℕ} {f : Frame} (h : e.frames[j]? = some f)
    (steps : List Step) :
    ∃ g, (e.run steps).frames[j]? = some g ∧
      (∀ file, f.filename = some file → g.filename = some file) ∧
        ∀ line, f.line = some line → g.line = some line := by
  obtain ⟨hj, rfl⟩ := List.getElem?_eq_some_iff.1 h
  have hsplit : e.frames = e.frames.take j ++ e.frames[j] :: e.frames.drop (j + 1) := by
    rw [List.getElem_cons_drop, List.take_append_drop]
  have hlength : (e.frames.take j).length = j := List.length_take_of_le (Nat.le_of_lt hj)
  have hfile := Frame.isField_filename.getElem?_frames_run hsplit steps
  have hline := Frame.isField_line.getElem?_frames_run hsplit steps
  rw [hlength] at hfile hline
  obtain ⟨g, hg, hfile⟩ := Option.map_eq_some_iff.1 hfile
  rw [hg, Option.map_some, Option.some.injEq] at hline
  refine ⟨g, hg, fun file hf => ?_, fun line hf => ?_⟩
  · rw [hfile, due_of_present hf]
  · rw [hline, due_of_present hf]

/-- **What a history tells.**  Message, rule, source and frames of a failure follow from the steps
it has been through, and a field that is present never changes. -/
theorem toldBy_run (message : String) (steps : List Step) :
    ToldBy message steps ((new message).run steps) where
  message_eq := message_run _ steps
  rule_eq := by rw [rule_run, new, Option.or_none]
  template_eq := by rw [template_run, new, Option.none_or]
  length_frames := length_frames_run _ steps
  origin_eq := by
    have hfirst : (new message).frames = [] ++ [.unknown] := frames_new message
    exact getElem?_frames_run_of_last hfirst steps
  added := by
    rintro earlier f later rfl
    have hlast : (((new message).run earlier).addFrame f).frames =
        ((new message).run earlier).frames ++ [f] := frames_addFrame _ f
    have hlength : ((new message).run earlier).frames.length =
        (earlier.filterMap Step.frame?).length + 1 := by
      rw [length_frames_run, frames_new, List.length_singleton, Nat.add_comm]
    rw [run_append, run_cons, ← hlength]
    exact getElem?_frames_run_of_last hlast later
  kept := by
    rintro earlier later rfl j f h
    rw [run_append]
    exact exists_getElem?_frames_run h later

end Failure

end SheetCheck
