import Mathlib.Data.List.Basic
import SheetCheck.Command.Arguments

/-!
# Paths among the arguments

Behind the options of a check, arguments that are not empty and start with no dash are its paths,
in the order in which they stand (`ofArguments_check`).
-/

namespace SheetCheck.Command

/-- An argument that is taken as a path wherever no value is expected. -/
def IsPath (arg : String) : Prop := canBeValue arg = true ∧ arg ≠ ""

instance (arg : String) : Decidable (IsPath arg) := inferInstanceAs (Decidable (_ ∧ _))

/-- A draft with more paths. -/
def Draft.addPaths (d : Draft) (paths : List String) : Draft :=
  { d with paths := paths.reverse ++ d.paths }

lemma canBeValue_iff {arg : String} : canBeValue arg = true ↔ Shape.of arg = .plain := by
  rw [canBeValue]
  cases Shape.of arg <;> simp

namespace Draft

lemma addPath_eq {d : Draft} {path : String} (h : path ≠ "") :
    d.addPath path = .ok (d.addPaths [path]) := by
  rw [addPath, if_neg h]
  rfl

lemma addPaths_addPaths (d : Draft) (ps qs : List String) :
    (d.addPaths ps).addPaths qs = d.addPaths (ps ++ qs) := by
  simp [addPaths]

lemma foldlM_addPath {paths : List String} (h : ∀ p ∈ paths, p ≠ "") (d : Draft) :
    paths.foldlM addPath d = .ok (d.addPaths paths) := by
  induction paths generalizing d with
  | nil => rfl
  | cons p ps ih =>
      obtain ⟨hp, hps⟩ := List.forall_mem_cons.1 h
      rw [List.foldlM_cons, addPath_eq hp]
      exact (ih hps _).trans (by rw [addPaths_addPaths]; rfl)

end Draft

lemma checkArguments_paths {paths : List String} (h : ∀ p ∈ paths, IsPath p) (d : Draft) :
    checkArguments d paths = .ok (d.addPaths paths) := by
  induction paths generalizing d with
  | nil => rfl
  | cons p ps ih =>
      obtain ⟨⟨plain, nonempty⟩, hps⟩ := List.forall_mem_cons.1 h
      simp only [checkArguments, canBeValue_iff.1 plain, Draft.addPath_eq nonempty]
      exact (ih hps _).trans (by rw [Draft.addPaths_addPaths]; rfl)

lemma bind_eq_ok {α β : Type} {x : Except Ending α} {f : α → Except Ending β} {b : β}
    (h : x >>= f = .ok b) : ∃ a, x = .ok a ∧ f a = .ok b := by
  cases x with
  | error e => cases h
  | ok a => exact ⟨a, rfl, h⟩

lemma checkArguments_append {flags paths : List String} {d d' : Draft}
    (hflags : checkArguments d flags = .ok d') (hpaths : ∀ p ∈ paths, IsPath p) :
    checkArguments d (flags ++ paths) = .ok (d'.addPaths paths) := by
  fun_induction checkArguments d flags with
  | case1 d =>
      cases hflags
      exact checkArguments_paths hpaths d'
  | case2 d arg rest separator =>
      -- Behind a separator even arguments that start with a dash are paths.
      simp only [List.cons_append, checkArguments, separator, List.foldlM_append, hflags]
      exact Draft.foldlM_addPath (fun p hp => (hpaths p hp).2) d'
  | case3 d arg rest plain ih =>
      obtain ⟨e, he, hrest⟩ := bind_eq_ok hflags
      simp only [List.cons_append, checkArguments, plain, he]
      exact ih e hrest
  | case4 d arg rest cs short ih =>
      obtain ⟨verbose, he, hrest⟩ := bind_eq_ok hflags
      simp only [List.cons_append, checkArguments, short, he]
      exact ih verbose hrest
  | case5 d arg name takes value rest long ih =>
      obtain ⟨e, he, hrest⟩ := bind_eq_ok hflags
      simp only [List.cons_append, checkArguments, long, takes, if_true, he]
      exact ih e hrest
  | case6 d arg name takes value rest can long ih =>
      obtain ⟨e, he, hrest⟩ := bind_eq_ok hflags
      simp only [List.cons_append, checkArguments, long, takes, can, if_true, he]
      exact ih e hrest
  | case9 d arg rest value long takes ih =>
      obtain ⟨_, hbare, hflags⟩ := bind_eq_ok hflags
      obtain ⟨verbose, he, hrest⟩ := bind_eq_ok hflags
      simp only [List.cons_append, checkArguments, long, takes, if_true, hbare, he]
      exact ih verbose hrest
  | case10 d arg rest value =>
      obtain ⟨_, -, hhelp⟩ := bind_eq_ok hflags
      cases hhelp
  | case7 | case8 | case11 => cases hflags

/-- The option for a format alone. -/
lemma checkArguments_format {word : String} {format : Format}
    (hformat : Format.ofName? word = some format) (hword : canBeValue word = true) :
    checkArguments ⟨[], none, none, false⟩ ["--format", word] =
      .ok ⟨[], some format, none, false⟩ := by
  have hlong : Shape.of "--format" = .long "format" none := rfl
  have htakes : takesValue "format" = true := by decide
  have hoption : Draft.addOption ⟨[], none, none, false⟩ "format" word =
      .ok ⟨[], some format, none, false⟩ := by
    rw [Draft.addOption, if_pos rfl, hformat]
  simp only [checkArguments, hlong, htakes, hword, if_true, hoption]
  rfl

/-- A check with some options and, behind them, its paths. -/
lemma ofArguments_check {flags paths : List String} {d : Draft}
    (hflags : checkArguments ⟨[], none, none, false⟩ flags = .ok d) (hd : d.paths = [])
    (hpaths : ∀ p ∈ paths, IsPath p) (nonempty : paths ≠ []) :
    Options.ofArguments ("check" :: (flags ++ paths)) =
      .ok ⟨paths, d.format.getD .human, d.defaultFilename.getD "an unknown file", d.verbose⟩ := by
  have check : Shape.of "check" = .plain := rfl
  have finish : (d.addPaths paths).finish false =
      .ok ⟨paths, d.format.getD .human, d.defaultFilename.getD "an unknown file", d.verbose⟩ := by
    simp [Draft.finish, Draft.addPaths, hd, nonempty]
  rw [Options.ofArguments, arguments, check]
  simp only [checkArguments_append hflags hpaths]
  exact finish

end SheetCheck.Command
