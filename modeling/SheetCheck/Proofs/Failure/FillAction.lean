import Mathlib.Data.List.DropRight
import SheetCheck.Proofs.Failure.Fill

/-!
# Filling as an action

A place is filled into the frames of a failure from the outermost one inwards, and each of its two
fields goes as far as it is missing.  So of each field just those values change that are missing at
the end of the list of frames, with nothing but missing ones behind them
(`Frame.IsField.map_fillAll`).  How far the one field reaches has no bearing on the other.

On a list of values with gaps, one fill after the other is a fill with the first value that is
present (`Frame.fillEnd_fillEnd`): whatever the first fill has put at the end stops the second one,
and if it has put nothing there, nothing has changed.  Since a frame is its two fields, the same
holds of whole places, for two fills (`Failure.fill_fill`) and for any number of them
(`Failure.foldl_fill`).
-/

namespace SheetCheck

namespace Frame

/-! ### Values with gaps -/

section Values

variable {α : Type} (a b : Option α) (os : List (Option α))

/-- `bare` is the longest ending of a list of values that consists of missing ones. -/
def IsBareEnd (bare os : List (Option α)) : Prop :=
  ∀ ending, ending <:+ bare ↔ ending <:+ os ∧ ∀ o ∈ ending, o = none

/-- The values `os'` are the values `os`, but for the longest ending of missing ones, each of which
is now `a`. -/
def EndFilled (a : Option α) (os os' : List (Option α)) : Prop :=
  ∃ kept bare, os = kept ++ bare ∧ IsBareEnd bare os ∧
    os' = kept ++ List.replicate bare.length a

/-- A list of values with `a` for the missing ones at its end. -/
def fillEnd : List (Option α) :=
  os.rdropWhile Option.isNone ++ List.replicate (os.rtakeWhile Option.isNone).length a

lemma fillEnd_concat_none : fillEnd a (os ++ [none]) = fillEnd a os ++ [a] := by
  rw [fillEnd, List.rdropWhile_concat_pos _ _ _ rfl, List.rtakeWhile_concat_pos _ _ _ rfl,
    List.length_append, List.length_singleton, List.replicate_succ', ← List.append_assoc, fillEnd]

lemma fillEnd_concat_some (c : α) : fillEnd a (os ++ [some c]) = os ++ [some c] := by
  rw [fillEnd, List.rdropWhile_concat_neg _ _ _ Bool.false_ne_true,
    List.rtakeWhile_concat_neg _ _ _ Bool.false_ne_true, List.length_nil, List.replicate_zero,
    List.append_nil]

/-- A missing value fills nothing. -/
lemma fillEnd_none : fillEnd none os = os := by
  induction os using List.reverseRecOn with
  | nil => rfl
  | append_singleton os o ih =>
      cases o with
      | none => rw [fillEnd_concat_none, ih]
      | some c => rw [fillEnd_concat_some]

lemma fillEnd_fillEnd : fillEnd b (fillEnd a os) = fillEnd (a.or b) os := by
  cases a with
  | none => rw [fillEnd_none, Option.none_or]
  | some c =>
      -- the last value is present by now, be it filled in or not
      rw [Option.some_or]
      cases os using List.reverseRecOn with
      | nil => rfl
      | append_singleton os o =>
          cases o with
          | none => rw [fillEnd_concat_none, fillEnd_concat_some]
          | some d => rw [fillEnd_concat_some, fillEnd_concat_some]

lemma isBareEnd_rtakeWhile : IsBareEnd (os.rtakeWhile Option.isNone) os := by
  intro ending
  constructor
  · intro h
    refine ⟨h.trans (List.rtakeWhile_suffix _ _), fun o ho => ?_⟩
    exact Option.isNone_iff_eq_none.1 (List.mem_rtakeWhile_imp (h.mem ho))
  · rintro ⟨⟨front, rfl⟩, hmissing⟩
    have hreverse : ∀ o ∈ ending.reverse, o.isNone = true := fun o ho =>
      Option.isNone_iff_eq_none.2 (hmissing o (List.mem_reverse.1 ho))
    rw [List.rtakeWhile, List.reverse_append, List.takeWhile_append_of_pos hreverse,
      List.reverse_append, List.reverse_reverse]
    exact List.suffix_append _ _

lemma endFilled_fillEnd : EndFilled a os (fillEnd a os) :=
  ⟨_, _, List.rdropWhile_append_rtakeWhile.symm, isBareEnd_rtakeWhile os, rfl⟩

end Values

/-! ### Frames by their fields -/

/-- Filling frames fills the end of the list of each field. -/
lemma IsField.map_fillAll {α : Type} {field : Frame → Option α} (hfield : IsField field)
    (g : Frame) (fs : List Frame) :
    (fillAll g fs).1.map field = fillEnd (field g) (fs.map field) := by
  induction fs using List.reverseRecOn generalizing g with
  | nil => rfl
  | append_singleton fs f ih =>
      rw [fillAll_concat, List.map_append, ih, List.map_append, List.map_singleton,
        List.map_singleton, hfield.blocks, hfield.or]
      cases field f with
      | none => rw [fillEnd_concat_none, Option.none_or]; rfl
      | some c => rw [fillEnd_concat_some, Option.some_or, Option.isSome_some, if_pos rfl,
          fillEnd_none]

/-- Frames are known from their files and their lines. -/
lemma eq_of_map_eq {fs fs' : List Frame} (hfile : fs.map filename = fs'.map filename)
    (hline : fs.map line = fs'.map line) : fs = fs' := by
  have hzip (es : List Frame) : List.zipWith mk (es.map filename) (es.map line) = es := by
    rw [List.zipWith_map, List.zipWith_self]
    exact List.map_id es
  rw [← hzip fs, hfile, hline, hzip fs']

/-- Filling frames twice is filling them once. -/
lemma fillAll_fillAll (g h : Frame) (fs : List Frame) :
    (fillAll h (fillAll g fs).1).1 = (fillAll (g.or h) fs).1 := by
  refine eq_of_map_eq ?_ ?_
  · simp only [isField_filename.map_fillAll, fillEnd_fillEnd, isField_filename.or]
  · simp only [isField_line.map_fillAll, fillEnd_fillEnd, isField_line.or]

end Frame

namespace Failure

variable (e : Failure)

/-! ### Failures -/

lemma eq_of_frames {e e' : Failure} (hmessage : e.message = e'.message) (hrule : e.rule = e'.rule)
    (htemplate : e.template = e'.template) (hframes : e.frames = e'.frames) : e = e' := by
  obtain ⟨horigin, himports⟩ := List.cons.inj hframes
  cases e
  cases e'
  rw [mk.injEq]
  exact ⟨hmessage, hrule, horigin, himports, htemplate⟩

/-- Two fills are one, with the first of two values that is present. -/
lemma fill_fill (g h : Frame) : (e.fill g).fill h = e.fill (g.or h) := by
  refine eq_of_frames rfl rfl rfl ?_
  rw [frames_fill, frames_fill, frames_fill, Frame.fillAll_fillAll]

/-- Any number of fills is one, with the first value that is present among them. -/
lemma foldl_fill (gs : List Frame) :
    gs.foldl fill e = e.fill ⟨gs.findSome? Frame.filename, gs.findSome? Frame.line⟩ := by
  induction gs generalizing e with
  | nil => exact e.fill_unknown.symm
  | cons g gs ih =>
      have hor : g.or ⟨gs.findSome? Frame.filename, gs.findSome? Frame.line⟩ =
          ⟨(g :: gs).findSome? Frame.filename, (g :: gs).findSome? Frame.line⟩ := by
        rw [Frame.or, List.findSome?_cons, List.findSome?_cons]
        cases g.filename <;> cases g.line <;> rfl
      rw [List.foldl_cons, ih, fill_fill, hor]

/-- **Filling is an action of the choice of the first present value.**  A fill puts its file into
the frames at the end of the trace that all lack one, and its line into those that all lack one, and
changes nothing else.  Two fills are one with the first present value of each field, and so is any
number of them.  The two fields can be filled one by one in either order, and the same fill again
changes nothing. -/
theorem fill_action (e : Failure) :
    (∀ g : Frame,
      Frame.EndFilled g.filename (e.frames.map Frame.filename)
          ((e.fill g).frames.map Frame.filename) ∧
        Frame.EndFilled g.line (e.frames.map Frame.line) ((e.fill g).frames.map Frame.line) ∧
        (e.fill g).message = e.message ∧ (e.fill g).rule = e.rule ∧
        (e.fill g).template = e.template) ∧
    (∀ file file' line line',
      (e.fill ⟨file, line⟩).fill ⟨file', line'⟩ = e.fill ⟨file.or file', line.or line'⟩) ∧
    (∀ gs : List Frame,
      gs.foldl fill e = e.fill ⟨gs.findSome? Frame.filename, gs.findSome? Frame.line⟩) ∧
    (∀ file line,
      (e.fill ⟨file, none⟩).fill ⟨none, line⟩ = e.fill ⟨file, line⟩ ∧
        (e.fill ⟨none, line⟩).fill ⟨file, none⟩ = e.fill ⟨file, line⟩) ∧
    ∀ g : Frame, (e.fill g).fill g = e.fill g := by
  refine ⟨fun g => ⟨?_, ?_, rfl, rfl, rfl⟩, fun _ _ _ _ => e.fill_fill _ _, e.foldl_fill, ?_, ?_⟩
  · rw [frames_fill, Frame.isField_filename.map_fillAll]
    exact Frame.endFilled_fillEnd _ _
  · rw [frames_fill, Frame.isField_line.map_fillAll]
    exact Frame.endFilled_fillEnd _ _
  · intro file line
    rw [fill_fill, fill_fill]
    simp only [Frame.or, Option.or_none, Option.none_or, and_self]
  · intro g
    rw [fill_fill]
    simp only [Frame.or, Option.or_self]

/-- A name stops at the first frame that has one, while the line goes on. -/
example :
    ((((new "boom").addFrame ⟨some "a.scss", none⟩).addFrame .unknown).fill
        ⟨some "b.scss", some 3⟩).frames =
      [⟨none, some 3⟩, ⟨some "a.scss", some 3⟩, ⟨some "b.scss", some 3⟩] := rfl

end Failure

end SheetCheck
