import Mathlib.Data.List.Nodup
import SheetCheck.Command.Inputs

/-!
# The entries of a directory

Below a directory there are files at any depth, each at the end of some steps (`Entry.HasFile`).
`Entry.files` enumerates them: it finds exactly these (`Entry.mem_files_iff`), and as long as the
entries of a directory have names that differ, each of them once (`Entry.nodup_files`).

The order in which the entries of a directory are listed is not known.  Another order, at whatever
depth, leads to the same files (`Entry.Reordered.hasFile_iff`).
-/

namespace SheetCheck.Command

/-! ### Files, and the steps that lead to them -/

/-- A step that leads to an entry of a directory. -/
structure IsName (name : String) : Prop where
  ne_empty : name ≠ ""
  ne_here : name ≠ "."
  ne_above : name ≠ ".."
  not_mem_slash : '/' ∉ name.toList

instance (name : String) : Decidable (IsName name) :=
  decidable_of_iff (name ≠ "" ∧ name ≠ "." ∧ name ≠ ".." ∧ '/' ∉ name.toList)
    ⟨fun ⟨h₁, h₂, h₃, h₄⟩ => ⟨h₁, h₂, h₃, h₄⟩, fun ⟨h₁, h₂, h₃, h₄⟩ => ⟨h₁, h₂, h₃, h₄⟩⟩

namespace Entry

/-- Some steps lead from an entry to a file with some content. -/
inductive HasFile : Entry → List String → Except ReadFault ByteArray → Prop
  | here {content : Except ReadFault ByteArray} : HasFile (.file content) [] content
  | under {es : List (String × Entry)} {name : String} {e : Entry} {steps : List String}
      {content : Except ReadFault ByteArray} : (name, e) ∈ es → HasFile e steps content →
      HasFile (.directory es) (name :: steps) content

mutual

/-- All directories at or below an entry can be listed, and the entries of each have names that
differ. -/
def Regular : Entry → Prop
  | file _ => True
  | directory es => (es.map Prod.fst).Nodup ∧ RegularIn es
  | closed _ => False

/-- Entries under proper names, all of them regular. -/
def RegularIn : List (String × Entry) → Prop
  | [] => True
  | (name, e) :: es => IsName name ∧ e.Regular ∧ RegularIn es

end

mutual

/-- An entry with the entries of its directories, and of those below them, in another order. -/
inductive Reordered : Entry → Entry → Prop
  | same (e : Entry) : Reordered e e
  | directory {es ds fs : List (String × Entry)} : ReorderedIn es ds → ds.Perm fs →
      Reordered (.directory es) (.directory fs)

/-- Entries under the same names, each of which is in another order. -/
inductive ReorderedIn : List (String × Entry) → List (String × Entry) → Prop
  | nil : ReorderedIn [] []
  | cons {name : String} {e d : Entry} {es ds : List (String × Entry)} : Reordered e d →
      ReorderedIn es ds → ReorderedIn ((name, e) :: es) ((name, d) :: ds)

end

variable {e d : Entry} {es ds : List (String × Entry)} {steps : List String}
  {content : Except ReadFault ByteArray}

lemma ReorderedIn.refl : ∀ es : List (String × Entry), ReorderedIn es es
  | [] => .nil
  | (_, e) :: es => .cons (.same e) (refl es)

lemma hasFile_file_iff {c : Except ReadFault ByteArray} :
    (Entry.file c).HasFile steps content ↔ steps = [] ∧ content = c := by
  constructor
  · rintro ⟨⟩
    exact ⟨rfl, rfl⟩
  · rintro ⟨rfl, rfl⟩
    exact .here

lemma hasFile_directory_iff :
    (Entry.directory es).HasFile steps content ↔
      ∃ name e rest, (name, e) ∈ es ∧ e.HasFile rest content ∧ steps = name :: rest := by
  constructor
  · rintro (_ | ⟨hmem, h⟩)
    exact ⟨_, _, _, hmem, h, rfl⟩
  · rintro ⟨name, e, rest, hmem, h, rfl⟩
    exact .under hmem h

lemma not_hasFile_closed {fault : ReadFault} : ¬ (Entry.closed fault).HasFile steps content := by
  rintro ⟨⟩

/-! ### Regular entries -/

lemma regularIn_iff :
    RegularIn es ↔ ∀ name e, (name, e) ∈ es → IsName name ∧ e.Regular := by
  induction es with
  | nil => simp [RegularIn]
  | cons x es ih =>
      obtain ⟨name, e⟩ := x
      rw [RegularIn, ih]
      constructor
      · rintro ⟨hname, he, hes⟩ _ _ (_ | ⟨_, hmem⟩)
        · exact ⟨hname, he⟩
        · exact hes _ _ hmem
      · intro h
        obtain ⟨hname, he⟩ := h name e (.head _)
        exact ⟨hname, he, fun _ _ hmem => h _ _ (.tail _ hmem)⟩

/-- Only proper names lead to the files of a regular entry. -/
lemma HasFile.isName (h : e.HasFile steps content) (he : e.Regular) :
    ∀ step ∈ steps, IsName step := by
  induction h with
  | here => simp
  | under hmem _ ih =>
      rw [Regular, regularIn_iff] at he
      obtain ⟨hname, he⟩ := he.2 _ _ hmem
      exact List.forall_mem_cons.2 ⟨hname, ih he⟩

mutual

lemma closedParts_eq_nil : ∀ (e : Entry) {here : List String}, e.Regular →
    e.closedParts here = []
  | file _, _, _ => by rw [closedParts]
  | directory es, _, h => by
      rw [closedParts]
      rw [Regular] at h
      exact closedPartsIn_eq_nil es h.2
  | closed _, _, h => by
      rw [Regular] at h
      exact h.elim

lemma closedPartsIn_eq_nil : ∀ (es : List (String × Entry)) {here : List String}, RegularIn es →
    closedPartsIn here es = []
  | [], _, _ => by rw [closedPartsIn]
  | (name, e) :: es, _, h => by
      rw [RegularIn] at h
      rw [closedPartsIn, closedParts_eq_nil e h.2.1, closedPartsIn_eq_nil es h.2.2,
        List.append_nil]

end

/-! ### The order of entries -/

mutual

lemma Reordered.hasFile_iff : ∀ {e d : Entry}, e.Reordered d →
    ∀ {steps : List String} {content : Except ReadFault ByteArray},
      d.HasFile steps content ↔ e.HasFile steps content
  | _, _, .same _, _, _ => Iff.rfl
  | _, _, .directory h hperm, steps, content => by
      simp only [hasFile_directory_iff, ← hperm.mem_iff]
      constructor
      · rintro ⟨name, d, rest, hmem, hd, rfl⟩
        obtain ⟨e, hmem, he⟩ := (h.hasFile_iff name).1 ⟨d, hmem, hd⟩
        exact ⟨name, e, rest, hmem, he, rfl⟩
      · rintro ⟨name, e, rest, hmem, he, rfl⟩
        obtain ⟨d, hmem, hd⟩ := (h.hasFile_iff name).2 ⟨e, hmem, he⟩
        exact ⟨name, d, rest, hmem, hd, rfl⟩

lemma ReorderedIn.hasFile_iff : ∀ {es ds : List (String × Entry)}, ReorderedIn es ds →
    ∀ (name : String) {steps : List String} {content : Except ReadFault ByteArray},
      (∃ d, (name, d) ∈ ds ∧ d.HasFile steps content) ↔
        ∃ e, (name, e) ∈ es ∧ e.HasFile steps content
  | _, _, .nil, _, _, _ => by simp
  | _, _, .cons he hes, name, _, _ => by
      simp only [List.mem_cons, Prod.mk.injEq, or_and_right, exists_or, and_assoc,
        exists_and_left, exists_eq_left, he.hasFile_iff, hes.hasFile_iff name]

end

lemma ReorderedIn.map_fst_eq (h : ReorderedIn es ds) : ds.map Prod.fst = es.map Prod.fst := by
  induction es generalizing ds with
  | nil =>
      cases h
      rfl
  | cons x es ih =>
      cases h with
      | cons _ hes => rw [List.map_cons, List.map_cons, ih hes]

mutual

lemma Reordered.regular : ∀ {e d : Entry}, e.Reordered d → e.Regular → d.Regular
  | _, _, .same _, h => h
  | _, _, .directory hes hperm, h => by
      rw [Regular] at h ⊢
      have hds := hes.regularIn h.2
      rw [regularIn_iff] at hds ⊢
      refine ⟨(hperm.map Prod.fst).nodup_iff.1 (hes.map_fst_eq ▸ h.1), ?_⟩
      exact fun name e hmem => hds name e (hperm.mem_iff.2 hmem)

lemma ReorderedIn.regularIn : ∀ {es ds : List (String × Entry)}, ReorderedIn es ds →
    RegularIn es → RegularIn ds
  | _, _, .nil, h => h
  | _, _, .cons hed hes, h => by
      rw [RegularIn] at h ⊢
      exact ⟨h.1, hed.regular h.2.1, hes.regularIn h.2.2⟩

end

/-! ### The enumeration of files -/

mutual

lemma mem_files_iff : ∀ (e : Entry) {here place : List String}
    {content : Except ReadFault ByteArray},
    (place, content) ∈ e.files here ↔
      ∃ steps, e.HasFile steps content ∧ place = steps.reverse ++ here
  | file c, here, place, content => by
      simp only [files, hasFile_file_iff, List.mem_singleton, Prod.mk.injEq]
      constructor
      · rintro ⟨rfl, rfl⟩
        exact ⟨[], ⟨rfl, rfl⟩, rfl⟩
      · rintro ⟨_, ⟨rfl, rfl⟩, rfl⟩
        exact ⟨rfl, rfl⟩
  | directory es, here, place, content => by
      rw [files, mem_filesIn_iff]
      simp only [hasFile_directory_iff]
      constructor
      · rintro ⟨name, e, rest, hmem, he, rfl⟩
        refine ⟨name :: rest, ⟨name, e, rest, hmem, he, rfl⟩, ?_⟩
        rw [List.reverse_cons, List.append_assoc, List.singleton_append]
      · rintro ⟨_, ⟨name, e, rest, hmem, he, rfl⟩, rfl⟩
        refine ⟨name, e, rest, hmem, he, ?_⟩
        rw [List.reverse_cons, List.append_assoc, List.singleton_append]
  | closed _, here, place, content => by
      simp [files, not_hasFile_closed]

lemma mem_filesIn_iff : ∀ (es : List (String × Entry)) {here place : List String}
    {content : Except ReadFault ByteArray},
    (place, content) ∈ filesIn here es ↔
      ∃ name e steps, (name, e) ∈ es ∧ e.HasFile steps content ∧
        place = steps.reverse ++ name :: here
  | [], _, _, _ => by simp [filesIn]
  | (name, e) :: es, here, place, content => by
      rw [filesIn, List.mem_append, mem_files_iff e, mem_filesIn_iff es]
      constructor
      · rintro (⟨steps, he, rfl⟩ | ⟨other, d, steps, hmem, hd, rfl⟩)
        · exact ⟨name, e, steps, .head _, he, rfl⟩
        · exact ⟨other, d, steps, .tail _ hmem, hd, rfl⟩
      · rintro ⟨other, d, steps, _ | ⟨_, hmem⟩, hd, rfl⟩
        · exact .inl ⟨steps, hd, rfl⟩
        · exact .inr ⟨other, d, steps, hmem, hd, rfl⟩

end

mutual

/-- No two files of a regular entry are at the same place. -/
lemma nodup_files : ∀ (e : Entry) {here : List String}, e.Regular →
    ((e.files here).map Prod.fst).Nodup
  | file _, _, _ => by simp [files]
  | directory es, _, h => by
      rw [Regular] at h
      rw [files]
      exact nodup_filesIn es h.1 h.2
  | closed _, _, _ => by simp [files]

lemma nodup_filesIn : ∀ (es : List (String × Entry)) {here : List String},
    (es.map Prod.fst).Nodup → RegularIn es → ((filesIn here es).map Prod.fst).Nodup
  | [], _, _, _ => by simp [filesIn]
  | (name, e) :: es, here, hnames, h => by
      rw [RegularIn] at h
      rw [List.map_cons, List.nodup_cons] at hnames
      rw [filesIn, List.map_append]
      refine (nodup_files e h.2.1).append (nodup_filesIn es hnames.2 h.2.2) ?_
      -- the step from `here` tells apart what is below different entries
      intro place hplace hother
      obtain ⟨⟨_, content⟩, hfile, rfl⟩ := List.mem_map.1 hplace
      obtain ⟨⟨_, content'⟩, hfile', heq⟩ := List.mem_map.1 hother
      obtain ⟨steps, -, hsteps⟩ := (mem_files_iff e).1 hfile
      obtain ⟨other, d, steps', hmem, -, hsteps'⟩ := (mem_filesIn_iff es).1 hfile'
      have hplace : steps'.reverse ++ other :: here = steps.reverse ++ name :: here :=
        hsteps'.symm.trans (heq.trans hsteps)
      obtain ⟨-, htail⟩ := List.append_inj' hplace rfl
      obtain ⟨rfl, -⟩ := List.cons_eq_cons.1 htail
      exact hnames.1 (List.mem_map.2 ⟨_, hmem, rfl⟩)

end

end Entry

end SheetCheck.Command
