import Mathlib.Data.List.Basic
import SheetCheck.Failure.Basic

/-!
# Filling frames

`Frame.fillAll` fills the missing fields of a list of frames from the last to the first, and
answers what is left for a frame before them.  The two fields of a frame do not meet on the way:
`Frame.IsField` says of a field all that filling does to it, and what holds of every such field is
said once.  Of a field everything is left as long as all frames lack it (`IsField.rest_of_missing`),
and nothing once one of them has it (`IsField.rest_of_present`).

The frames of a failure are looked at as one list.  The operations on a failure that touch its
frames are stated as operations on that list, so that no later proof opens them again.
-/

namespace SheetCheck

namespace Frame

variable (g f : Frame) (fs : List Frame)

/-- The last frames are filled first, and pass on what they lack. -/
lemma fillAll_append (es : List Frame) :
    fillAll g (es ++ fs) =
      ((fillAll (fillAll g fs).2 es).1 ++ (fillAll g fs).1, (fillAll (fillAll g fs).2 es).2) := by
  induction es with
  | nil => rfl
  | cons e es ih =>
      rw [List.cons_append, fillAll, ih]
      rfl

lemma fillAll_concat :
    fillAll g (fs ++ [f]) =
      ((fillAll (f.blocks g) fs).1 ++ [f.or g], (fillAll (f.blocks g) fs).2) :=
  fillAll_append g [f] fs

lemma fillAll_unknown : fillAll unknown fs = (fs, unknown) := by
  induction fs with
  | nil => rfl
  | cons e fs ih =>
      rw [fillAll, ih]
      simp [Frame.or, blocks, unknown]

lemma length_fillAll : (fillAll g fs).1.length = fs.length := by
  induction fs with
  | nil => rfl
  | cons e fs ih => rw [fillAll, List.length_cons, List.length_cons, ih]

/-! ### One field at a time -/

/-- A field of frames: it starts out missing, is filled where it is missing, and goes no further
where it is not. -/
structure IsField {α : Type} (field : Frame → Option α) : Prop where
  unknown : field .unknown = none
  or (f g : Frame) : field (f.or g) = (field f).or (field g)
  blocks (f g : Frame) : field (f.blocks g) = if (field f).isSome then none else field g

lemma isField_filename : IsField Frame.filename := ⟨rfl, fun _ _ => rfl, fun _ _ => rfl⟩

lemma isField_line : IsField Frame.line := ⟨rfl, fun _ _ => rfl, fun _ _ => rfl⟩

namespace IsField

variable {α : Type} {field : Frame → Option α} {fs}

/-- Past frames that lack the field its value goes on. -/
lemma rest_of_missing (hfield : IsField field) (h : ∀ e ∈ fs, field e = none) :
    field (fillAll g fs).2 = field g := by
  induction fs with
  | nil => rfl
  | cons e fs ih =>
      have he : field e = none := h e List.mem_cons_self
      rw [fillAll]
      simp only [hfield.blocks, he, Option.isSome_none, Bool.false_eq_true, if_false]
      exact ih fun e' he' => h e' (List.mem_cons_of_mem e he')

/-- Past a frame that has the field no value goes on. -/
lemma rest_of_present (hfield : IsField field) (h : ∃ e ∈ fs, field e ≠ none) :
    field (fillAll g fs).2 = none := by
  induction fs with
  | nil => simp at h
  | cons e fs ih =>
      rw [fillAll]
      simp only [hfield.blocks]
      split
      · rfl
      · next hnone =>
          obtain ⟨e', he', hsome⟩ := h
          rcases List.mem_cons.1 he' with rfl | he'
          · exact absurd (Option.isSome_iff_ne_none.2 hsome) hnone
          · exact ih ⟨e', he', hsome⟩

lemma missing_fillAll (hfield : IsField field) (hg : field g = none)
    (h : ∀ e ∈ fs, field e = none) :
    ∀ e ∈ (fillAll g fs).1, field e = none := by
  induction fs with
  | nil => simp [fillAll]
  | cons e fs ih =>
      have hfs : ∀ e' ∈ fs, field e' = none := fun e' he' => h e' (List.mem_cons_of_mem e he')
      rw [fillAll, List.forall_mem_cons]
      refine ⟨?_, ih hfs⟩
      rw [hfield.or, h e List.mem_cons_self, hfield.rest_of_missing g hfs, hg, Option.or_none]

lemma present_fillAll (hfield : IsField field) (h : ∃ e ∈ fs, field e ≠ none) :
    ∃ e ∈ (fillAll g fs).1, field e ≠ none := by
  induction fs with
  | nil => simp at h
  | cons e fs ih =>
      rw [fillAll, List.exists_mem_cons_iff]
      rcases (List.exists_mem_cons_iff _ _ _).1 h with he | hfs
      · left
        rw [hfield.or]
        exact fun hnone => he (Option.or_eq_none_iff.1 hnone).1
      · exact .inr (ih hfs)

end IsField

end Frame

namespace Failure

variable (e : Failure)

lemma frames_new (message : String) : (new message).frames = [.unknown] := rfl

lemma frames_withRule (rule : String) : (e.withRule rule).frames = e.frames := rfl

lemma frames_fill (g : Frame) : (e.fill g).frames = (Frame.fillAll g e.frames).1 := rfl

lemma frames_addFrame (f : Frame) : (e.addFrame f).frames = e.frames ++ [f] := rfl

/-- Nothing is filled from an unknown place. -/
lemma fill_unknown : e.fill .unknown = e := by
  rw [fill, Frame.fillAll_unknown]
  simp [Frame.or, Frame.unknown]

end Failure

end SheetCheck
