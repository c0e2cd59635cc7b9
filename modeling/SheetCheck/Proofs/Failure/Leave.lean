import SheetCheck.Nesting.Check
import SheetCheck.Proofs.Failure.Fill

/-!
# Leaving a node

A failure on its way out leaves one node after the other.  There are two ways in which this can
go: an import adds a frame (`Node.leave_of_import`), and any other node lends what it knows
(`Node.leave_of_not_import`).  Nothing else is said about `Node.unwind` anywhere: what becomes of
the rule, the message, the frames and the source follows from these two.
-/

namespace SheetCheck

/-- The source that a node lends to a failure. -/
def Node.source? (n : Node) : Option Template :=
  match n.kind with
  | .root text => if text ≠ "" then some ⟨n.filename, text⟩ else none
  | _ => none

/-- What becomes of a failure that leaves a node on its way out of one of its children. -/
def Node.leave (n : Node) (e : Failure) : Failure := (n.unwind e).2.fill n.place

namespace Node

variable {n : Node}

lemma source?_of_import (h : n.tag = .importSheet) : n.source? = none := by
  unfold source?
  split
  · next hkind => simp [tag, hkind, Kind.tag] at h
  · rfl

lemma source?_eq_some_iff {template : Template} :
    n.source? = some template ↔
      ∃ text, n.kind = .root text ∧ text ≠ "" ∧ template = ⟨n.filename, text⟩ := by
  unfold source?
  split
  · next text hkind =>
      rw [Option.ite_none_right_eq_some, Option.some.injEq]
      constructor
      · rintro ⟨htext, rfl⟩
        exact ⟨text, hkind, htext, rfl⟩
      · rintro ⟨text, h, htext, rfl⟩
        obtain rfl := Kind.root.inj (hkind.symm.trans h)
        exact ⟨htext, rfl⟩
  · next hroot =>
      constructor
      · exact fun h => absurd h (by simp)
      · rintro ⟨text, h, -⟩
        exact absurd h (hroot text)

/-- A node lends no source if it is no document, or one whose text is empty. -/
lemma source?_eq_none_iff : n.source? = none ↔ ∀ text, n.kind = .root text → text = "" := by
  rw [Option.eq_none_iff_forall_ne_some]
  constructor
  · intro h text hkind
    by_contra htext
    exact h _ (source?_eq_some_iff.2 ⟨text, hkind, htext, rfl⟩)
  · intro h template hsome
    obtain ⟨text, hkind, htext, -⟩ := source?_eq_some_iff.1 hsome
    exact htext (h text hkind)

lemma filename_of_source?_eq_some {template : Template} (h : n.source? = some template) :
    template.filename = n.filename := by
  obtain ⟨text, -, -, rfl⟩ := source?_eq_some_iff.1 h
  rfl

variable (e : Failure)

/-- An import lends the name of its first child, adds a frame, and lends its own place. -/
lemma leave_of_import (h : n.tag = .importSheet) :
    n.leave e =
      ((e.fill ⟨n.children.head?.bind (·.filename), none⟩).addFrame n.place).fill n.place := by
  rw [leave]
  congr 1
  unfold unwind
  split
  · next hkind => simp [tag, hkind, Kind.tag] at h
  · cases n.children with
    | nil =>
        change e.addFrame n.place = (e.fill .unknown).addFrame n.place
        rw [Failure.fill_unknown]
    | cons first rest => rfl
  · next _ hother =>
      cases hkind : n.kind <;> simp [tag, hkind, Kind.tag] at h
      exact absurd hkind (hother _)

/-- A node that is no import lends its source and its own place. -/
lemma leave_of_not_import (h : n.tag ≠ .importSheet) :
    n.leave e = ({ e with template := e.template.or n.source? } : Failure).fill n.place := by
  have hfirst : (n.unwind e).2 = { e with template := e.template.or n.source? } := by
    unfold unwind
    split
    · next text hkind =>
        rw [source?, hkind]
        -- an empty text is no source, and a source that is there already stays
        by_cases htext : text = ""
        · simp [htext]
        · obtain ⟨message, rule, origin, imports, template⟩ := e
          cases template with
          | none => simp [htext, Failure.attach]
          | some template => simp
    · next hkind => exact absurd (by rw [tag, hkind]; rfl) h
    · next hroot _ =>
        have hsource : n.source? = none := by
          unfold source?
          split
          · next text hkind => exact absurd hkind (hroot text)
          · rfl
        rw [hsource, Option.or_none]
  rw [leave, hfirst]

/-! ### What a failure keeps -/

lemma leave_rule (n : Node) : (n.leave e).rule = e.rule := by
  by_cases h : n.tag = .importSheet
  · rw [leave_of_import e h]
    rfl
  · rw [leave_of_not_import e h]
    rfl

lemma leave_message (n : Node) : (n.leave e).message = e.message := by
  by_cases h : n.tag = .importSheet
  · rw [leave_of_import e h]
    rfl
  · rw [leave_of_not_import e h]
    rfl

/-- A source that a failure has stays. -/
lemma leave_template (n : Node) : (n.leave e).template = e.template.or n.source? := by
  by_cases h : n.tag = .importSheet
  · rw [leave_of_import e h, source?_of_import h, Option.or_none]
    rfl
  · rw [leave_of_not_import e h]
    rfl

/-! ### What becomes of the frames -/

lemma frames_leave_of_not_import (h : n.tag ≠ .importSheet) :
    (n.leave e).frames = (Frame.fillAll n.place e.frames).1 := by
  rw [leave_of_not_import e h]
  rfl

/-- The frame that an import adds takes nothing from the import itself, and lets nothing of it
through. -/
lemma frames_leave_of_import (h : n.tag = .importSheet) :
    (n.leave e).frames =
      (Frame.fillAll ⟨n.children.head?.bind (·.filename), none⟩ e.frames).1 ++ [n.place] := by
  have hblocks : n.place.blocks n.place = .unknown := by
    rw [Frame.blocks, place, Frame.unknown]
    cases n.filename <;> rfl
  have hor : n.place.or n.place = n.place := by
    rw [Frame.or, place]
    cases n.filename <;> rfl
  rw [leave_of_import e h, Failure.frames_fill, Failure.frames_addFrame, Failure.frames_fill,
    Frame.fillAll_concat, hblocks, Frame.fillAll_unknown, hor]

end Node

end SheetCheck
