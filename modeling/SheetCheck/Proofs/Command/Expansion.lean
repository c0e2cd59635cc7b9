import Mathlib.Data.List.TakeDrop
import Mathlib.Data.String.Basic
import SheetCheck.Proofs.Command.Entries
import SheetCheck.Proofs.Command.Independence

/-!
# The files below directories

A path that leads to a directory stands for the files below it that hold trees, whatever their
depth.  Each of them is found once, and they are in the order of their paths, which are compared
component by component, so that `a/z.json` comes before `a-b.json` (`Expands`).  Any other path
stands for itself (`sources_expand`).

The files and their order do not depend on the order in which the entries of a directory are listed:
a list that increases strictly is known from its members (`Expands.eq`).  What is assumed of
directories is that their entries can be listed and have proper names that differ
(`Entry.Regular`).
-/

namespace SheetCheck.Command

/-! ### The names of files that hold trees -/

/-- Where a list is cut at its first dot, with something behind the dot. -/
lemma cut_dot_iff {cs front : List Char} (hfront : '.' ∉ front) :
    cs.takeWhile (· ≠ '.') = front ∧ 2 ≤ (cs.dropWhile (· ≠ '.')).length ↔
      ∃ rest, rest ≠ [] ∧ cs = front ++ '.' :: rest := by
  constructor
  · rintro ⟨rfl, hlength⟩
    have happend := List.takeWhile_append_dropWhile (p := (· ≠ '.')) (l := cs)
    have hdot := List.head?_dropWhile_not (· ≠ '.') cs
    generalize cs.dropWhile (· ≠ '.') = rest at hlength happend hdot
    match rest with
    | c :: d :: rest =>
        obtain rfl : c = '.' := by simpa using hdot
        exact ⟨d :: rest, List.cons_ne_nil _ _, happend.symm⟩
  · rintro ⟨rest, hrest, rfl⟩
    have hplain : ∀ c ∈ front, decide (c ≠ '.') = true := fun c hc =>
      decide_eq_true fun hdot => hfront (hdot ▸ hc)
    have htake : ('.' :: rest).takeWhile (· ≠ '.') = [] := rfl
    have hdrop : ('.' :: rest).dropWhile (· ≠ '.') = '.' :: rest := rfl
    rw [List.takeWhile_append_of_pos hplain, List.dropWhile_append_of_pos hplain, htake, hdrop,
      List.append_nil, List.length_cons]
    exact ⟨rfl, Nat.succ_le_succ (List.length_pos_of_ne_nil hrest)⟩

/-- A tree is held by files with a stem that is not empty and the extension `json` behind it. -/
lemma isTreeName_iff {name : String} :
    isTreeName name = true ↔ ∃ stem, stem ≠ "" ∧ name = stem ++ ".json" := by
  have hcut : isTreeName name = true ↔
      name.toList.reverse.takeWhile (· ≠ '.') = ['n', 'o', 's', 'j'] ∧
        2 ≤ (name.toList.reverse.dropWhile (· ≠ '.')).length := by
    rw [isTreeName, List.span_eq_takeWhile_dropWhile, Bool.and_eq_true, beq_iff_eq,
      List.reverse_eq_iff, decide_eq_true_iff]
    rfl
  rw [hcut, cut_dot_iff (by decide)]
  constructor
  · rintro ⟨rest, hrest, hname⟩
    refine ⟨String.ofList rest.reverse, ?_, ?_⟩
    · rwa [Ne, String.ofList_eq_empty_iff, List.reverse_eq_nil_iff]
    · rw [← String.toList_inj, String.toList_append, String.toList_ofList, ← List.reverse_inj,
        hname, List.reverse_append, List.reverse_reverse]
      rfl
  · rintro ⟨stem, hstem, rfl⟩
    refine ⟨stem.toList.reverse, ?_, ?_⟩
    · rwa [Ne, List.reverse_eq_nil_iff, String.toList_eq_nil_iff]
    · rw [String.toList_append, List.reverse_append]
      rfl

/-! ### The order of names and steps -/

/-- Lists in the order of a dictionary are in their own order. -/
lemma lexLe_iff {α : Type} [LinearOrder α] {lt : α → α → Bool}
    (hlt : ∀ a b, lt a b = true ↔ a < b) : ∀ {as bs : List α}, lexLe lt as bs = true ↔ ¬ bs < as
  | [], _ => by simp [lexLe]
  | _ :: _, [] => by simp [lexLe]
  | a :: as, b :: bs => by
      have hbool : lexLe lt (a :: as) (b :: bs) = true ↔ a < b ∨ ¬ b < a ∧ ¬ bs < as := by
        rw [lexLe, Bool.or_eq_true, Bool.and_eq_true, Bool.not_eq_true', ← Bool.not_eq_true,
          hlt, hlt, lexLe_iff hlt]
      rw [hbool, List.cons_lt_cons_iff]
      rcases lt_trichotomy a b with hab | rfl | hab
      · simp [hab, hab.not_gt, hab.ne']
      · simp
      · simp [hab, hab.not_gt]

/-- Names are in the order of strings. -/
lemma nameLt_iff {a b : String} : nameLt a b = true ↔ a < b := by
  have hchar : ∀ c d : Char, decide (c.toNat < d.toNat) = true ↔ c < d := fun c d =>
    decide_eq_true_iff
  rw [nameLt, Bool.not_eq_true', ← Bool.not_eq_true, lexLe_iff hchar, not_not,
    String.lt_iff_toList_lt]

lemma stepsLe_iff {as bs : List String} : stepsLe as bs = true ↔ ¬ bs < as :=
  lexLe_iff fun _ _ => nameLt_iff

/-! ### The components of a path -/

/-- The components of a path; empty steps and dots do not count. -/
def components (path : String) : List String :=
  ((path.toList.splitOn '/').map String.ofList).filter fun step => step ≠ "" ∧ step ≠ "."

/-- A slash stands between components, or next to an empty step. -/
lemma components_slash (front rest : String) :
    components (front ++ "/" ++ rest) = components front ++ components rest := by
  have hsplit : (front ++ "/" ++ rest).toList.splitOn '/' =
      front.toList.splitOn '/' ++ rest.toList.splitOn '/' := by
    rw [String.toList_append, String.toList_append, List.append_assoc]
    exact List.splitOn_append_cons_self _ _
  rw [components, hsplit, List.map_append, List.filter_append]
  rfl

lemma components_name {name : String} (h : IsName name) : components name = [name] := by
  have hsplit : name.toList.splitOn '/' = [name.toList] :=
    List.splitOn_eq_singleton h.not_mem_slash
  rw [components, hsplit]
  simp [h.ne_empty, h.ne_here]

lemma components_joinStep {path step : String} (h : IsName step) :
    components (Entry.joinStep path step) = components path ++ [step] := by
  rw [Entry.joinStep]
  split
  next hslash =>
    rw [String.endsWith_eq_endsWith_toSlice, String.Slice.endsWith_string_iff] at hslash
    obtain ⟨front, hfront⟩ := hslash
    obtain rfl : String.ofList front ++ "/" = path := by
      rw [← String.toList_inj, String.toList_append, String.toList_ofList, hfront]
      exact String.copy_toSlice ▸ rfl
    have hpath := components_slash (String.ofList front) ""
    rw [String.append_empty] at hpath
    rw [components_slash, hpath, components_name h]
    have hempty : components "" = [] := by decide
    rw [hempty, List.append_nil]
  next => rw [components_slash, components_name h]

/-- All paths below a directory begin with its components, so that the steps decide their order. -/
lemma components_joinPath {path : String} {steps : List String} (h : ∀ step ∈ steps, IsName step) :
    components (joinPath path steps) = components path ++ steps := by
  induction steps generalizing path with
  | nil => simp [joinPath]
  | cons step steps ih =>
      obtain ⟨hstep, hsteps⟩ := List.forall_mem_cons.1 h
      have hjoin : joinPath path (step :: steps) = joinPath (Entry.joinStep path step) steps := rfl
      rw [hjoin, ih hsteps, components_joinStep hstep, List.append_assoc, List.singleton_append]

/-! ### The files of a directory -/

/-- Some steps lead to a file that holds a tree: its name is a stem that is not empty, and the
extension `json` behind it. -/
def LeadsToTree (steps : List String) : Prop :=
  ∃ above stem, stem ≠ "" ∧ steps = above ++ [stem ++ ".json"]

/-- Some files are those below the directory `e`, which `path` leads to, that hold trees: all of
them, and each of them once, in the order of the components of their paths. -/
structure Expands (path : String) (e : Entry) (ss : List Source) : Prop where
  mem_iff (s : Source) : s ∈ ss ↔
    ∃ steps, e.HasFile steps s.content ∧ LeadsToTree steps ∧ s.path = joinPath path steps
  increasing : ss.Pairwise fun s s' => components s.path < components s'.path

lemma leadsToTree_iff {steps : List String} :
    LeadsToTree steps ↔ steps.getLast?.any isTreeName = true := by
  rw [Option.any_eq_true]
  simp only [isTreeName_iff, List.getLast?_eq_some_iff]
  constructor
  · rintro ⟨above, stem, hstem, rfl⟩
    exact ⟨_, ⟨above, rfl⟩, stem, hstem, rfl⟩
  · rintro ⟨_, ⟨above, rfl⟩, stem, hstem, rfl⟩
    exact ⟨above, stem, hstem, rfl⟩

section Files

variable {e : Entry} {steps : List String} {content : Except ReadFault ByteArray}

lemma mem_treeFiles_iff :
    (steps, content) ∈ treeFiles e ↔ e.HasFile steps content ∧ LeadsToTree steps := by
  rw [treeFiles, List.mem_mergeSort, leadsToTree_iff]
  simp only [List.mem_map, List.mem_filter, Prod.exists, Prod.mk.injEq]
  constructor
  · rintro ⟨here, _, ⟨hmem, hname⟩, rfl, rfl⟩
    obtain ⟨steps, hfile, rfl⟩ := (Entry.mem_files_iff e).1 hmem
    rw [List.append_nil] at hname ⊢
    rw [List.reverse_reverse]
    exact ⟨hfile, by rwa [List.head?_reverse] at hname⟩
  · rintro ⟨hfile, hname⟩
    refine ⟨steps.reverse, content, ⟨(Entry.mem_files_iff e).2 ⟨steps, hfile, ?_⟩, ?_⟩,
      List.reverse_reverse steps, rfl⟩
    · rw [List.append_nil]
    · rwa [List.head?_reverse]

lemma nodup_treeFiles (he : e.Regular) : ((treeFiles e).map Prod.fst).Nodup := by
  have hplaces : ∀ p, ((((e.files []).filter p).map Prod.fst).map List.reverse).Nodup := fun p =>
    ((Entry.nodup_files e he).sublist (List.filter_sublist.map Prod.fst)).map
      List.reverse_injective
  rw [treeFiles, ((List.mergeSort_perm _ _).map _).nodup_iff, List.map_map]
  simp only [List.map_map] at hplaces
  exact hplaces _

/-- The steps to the files that hold trees increase. -/
lemma pairwise_treeFiles (he : e.Regular) : (treeFiles e).Pairwise fun a b => a.1 < b.1 := by
  have hsorted : (treeFiles e).Pairwise fun a b => stepsLe a.1 b.1 = true := by
    refine List.pairwise_mergeSort ?_ ?_ _
    · intro a b c
      simp only [stepsLe_iff, not_lt]
      exact le_trans
    · intro a b
      simp only [Bool.or_eq_true, stepsLe_iff, not_lt]
      exact le_total a.1 b.1
  have hdistinct : (treeFiles e).Pairwise fun a b => a.1 ≠ b.1 :=
    List.pairwise_map.1 (nodup_treeFiles he)
  refine hsorted.imp₂ (fun a b hle hne => ?_) hdistinct
  exact lt_of_le_of_ne (not_lt.1 (stepsLe_iff.1 hle)) hne

lemma expands_treeFiles (path : String) (he : e.Regular) :
    Expands path e ((treeFiles e).map fun (steps, content) => ⟨joinPath path steps, content⟩) where
  mem_iff := by
    rintro ⟨place, content⟩
    simp only [List.mem_map, Prod.exists, mem_treeFiles_iff, Source.mk.injEq]
    constructor
    · rintro ⟨steps, _, ⟨hfile, hname⟩, rfl, rfl⟩
      exact ⟨steps, hfile, hname, rfl⟩
    · rintro ⟨steps, hfile, hname, rfl⟩
      exact ⟨steps, content, ⟨hfile, hname⟩, rfl, rfl⟩
  increasing := by
    rw [List.pairwise_map]
    refine (pairwise_treeFiles he).imp_of_mem ?_
    rintro ⟨steps, _⟩ ⟨steps', _⟩ hmem hmem' hlt
    have hsteps := (mem_treeFiles_iff.1 hmem).1.isName he
    have hsteps' := (mem_treeFiles_iff.1 hmem').1.isName he
    rw [components_joinPath hsteps, components_joinPath hsteps']
    exact List.append_left_lt hlt

end Files

/-- The files are known from what they are and from their order. -/
lemma Expands.eq {path : String} {e d : Entry} {ss ts : List Source} (hs : Expands path e ss)
    (ht : Expands path d ts)
    (hsame : ∀ steps content, e.HasFile steps content ↔ d.HasFile steps content) : ss = ts := by
  have hnodup {us : List Source}
      (h : us.Pairwise fun s s' => components s.path < components s'.path) : us.Nodup := by
    refine h.imp ?_
    rintro s _ hlt rfl
    exact lt_irrefl _ hlt
  have hperm : ss.Perm ts :=
    (List.perm_ext_iff_of_nodup (hnodup hs.increasing) (hnodup ht.increasing)).2 fun s => by
      simp only [hs.mem_iff, ht.mem_iff, hsame]
  exact hperm.eq_of_pairwise (fun _ _ _ _ h h' => absurd h (lt_asymm h')) hs.increasing
    ht.increasing

/-! ### The files of some paths -/

section Paths

variable {lookup : Lookup} {path : String}

lemma filesOf_of_error {fault : ReadFault} (h : lookup path = .error fault) :
    filesOf lookup path = [⟨path, .error fault⟩] :=
  filesOf_eq (by rw [sourcesOf, h])

lemma filesOf_of_file {content : Except ReadFault ByteArray}
    (h : lookup path = .ok (.file content)) : filesOf lookup path = [⟨path, content⟩] :=
  filesOf_eq (by rw [sourcesOf, h])

lemma sourcesOf_directory {es : List (String × Entry)} (h : lookup path = .ok (.directory es))
    (he : (Entry.directory es).Regular) :
    sourcesOf lookup path =
      .ok ((treeFiles (.directory es)).map fun (steps, content) =>
        ⟨joinPath path steps, content⟩) := by
  rw [sourcesOf, h]
  simp only [Entry.closedParts_eq_nil _ he]

lemma expands_filesOf {es : List (String × Entry)} (h : lookup path = .ok (.directory es))
    (he : (Entry.directory es).Regular) : Expands path (.directory es) (filesOf lookup path) := by
  rw [filesOf_eq (sourcesOf_directory h he)]
  exact expands_treeFiles path he

/-- The files of a path can be told if all directories below it can be listed. -/
lemma sourcesOf_eq_filesOf (hregular : ∀ e, lookup path = .ok e → e.Regular) :
    sourcesOf lookup path = .ok (filesOf lookup path) := by
  have htold : ∃ ss, sourcesOf lookup path = .ok ss := by
    cases h : lookup path with
    | error fault => exact ⟨_, by rw [sourcesOf, h]⟩
    | ok e =>
        have he := hregular e h
        cases e with
        | file content => exact ⟨_, by rw [sourcesOf, h]⟩
        | directory es => exact ⟨_, sourcesOf_directory h he⟩
        | closed fault =>
            rw [Entry.Regular] at he
            exact he.elim
  obtain ⟨ss, hss⟩ := htold
  rw [hss, filesOf_eq hss]

/-- The same stands under a path, up to the order of entries, or the same keeps one from finding
anything there. -/
inductive SameButOrder : Except ReadFault Entry → Except ReadFault Entry → Prop
  | missing (fault : ReadFault) : SameButOrder (.error fault) (.error fault)
  | found {e d : Entry} : e.Reordered d → SameButOrder (.ok e) (.ok d)

lemma sourcesOf_of_sameButOrder {lookup' : Lookup}
    (hregular : ∀ e, lookup path = .ok e → e.Regular)
    (h : SameButOrder (lookup path) (lookup' path)) :
    sourcesOf lookup' path = .ok (filesOf lookup path) := by
  have hsame (heq : lookup path = lookup' path) :
      sourcesOf lookup' path = .ok (filesOf lookup path) := by
    rw [← sourcesOf_eq_filesOf hregular, sourcesOf, sourcesOf, heq]
  generalize hfound : lookup path = found at h
  generalize hfound' : lookup' path = found' at h
  cases h with
  | missing fault => exact hsame (hfound.trans hfound'.symm)
  | found hturned =>
      cases hturned with
      | same e => exact hsame (hfound.trans hfound'.symm)
      | directory hes hperm =>
          have hturned := Entry.Reordered.directory hes hperm
          have he := hregular _ hfound
          have hd := hturned.regular he
          rw [(expands_filesOf hfound he).eq (expands_filesOf hfound' hd)
            fun _ _ => hturned.hasFile_iff.symm]
          exact sourcesOf_eq_filesOf fun d hd' => by
            rw [hfound', Except.ok.injEq] at hd'
            exact hd' ▸ hd

end Paths

/-- **A run is on the files that its paths stand for, one path after the other.**  A path that does
not lead to a directory stands for itself, whether there is a file or not and whatever its name.
One that leads to a directory stands for exactly the files at any depth below it whose name is a
stem and the extension `json`, each of them once, in the order of the components of their paths.
That is so in whatever order the entries of directories are listed: another order leads to the same
files, in the same order. -/
theorem sources_expand {lookup : Lookup} {paths : List String}
    (hregular : ∀ path ∈ paths, ∀ e, lookup path = .ok e → e.Regular) :
    sources lookup paths = .ok (paths.flatMap (filesOf lookup)) ∧
      (∀ path fault, lookup path = .error fault → filesOf lookup path = [⟨path, .error fault⟩]) ∧
      (∀ path content, lookup path = .ok (.file content) →
        filesOf lookup path = [⟨path, content⟩]) ∧
      (∀ path ∈ paths, ∀ es, lookup path = .ok (.directory es) →
        Expands path (.directory es) (filesOf lookup path)) ∧
      ∀ lookup' : Lookup, (∀ path ∈ paths, SameButOrder (lookup path) (lookup' path)) →
        sources lookup' paths = sources lookup paths := by
  have htold : sources lookup paths = .ok (paths.flatMap (filesOf lookup)) :=
    sources_eq_ok_iff.2 ⟨fun path hpath => sourcesOf_eq_filesOf (hregular path hpath), rfl⟩
  refine ⟨htold, fun _ _ => filesOf_of_error, fun _ _ => filesOf_of_file, ?_, ?_⟩
  · intro path hpath es hes
    exact expands_filesOf hes (hregular path hpath _ hes)
  · intro lookup' hsame
    have hfiles : ∀ path ∈ paths, sourcesOf lookup' path = .ok (filesOf lookup path) :=
      fun path hpath => sourcesOf_of_sameButOrder (hregular path hpath) (hsame path hpath)
    rw [htold, sources_eq_ok_iff]
    constructor
    · intro path hpath
      rw [hfiles path hpath, filesOf_eq (hfiles path hpath)]
    · exact List.flatMap_congr fun path hpath => (filesOf_eq (hfiles path hpath)).symm

/-! ### A directory of each kind of entry -/

/-- Two trees at different depths, a name that is an extension alone, a file without the extension,
and a directory with it. -/
def libraryEntries : List (String × Entry) :=
  [("a-b.json", .file (.ok emptySheet)), (".json", .file (.ok emptySheet)),
    ("a", .directory [("z.json", .file (.ok emptySheet))]), ("a.txt", .file (.ok emptySheet)),
    ("x.json", .directory [])]

/-- The directory, and a file beside it that is no tree by its name. -/
def library : Lookup
  | "lib" => .ok (.directory libraryEntries)
  | "notes.txt" => .ok (.file (.ok emptySheet))
  | _ => .error .notFound

/-- The same with the entries listed from the last to the first. -/
def libraryTurned : Lookup
  | "lib" => .ok (.directory libraryEntries.reverse)
  | path => library path

lemma regular_libraryEntries : (Entry.directory libraryEntries).Regular := by
  simp only [Entry.Regular, Entry.RegularIn, libraryEntries, and_true, true_and, List.map_nil,
    List.nodup_nil]
  decide

lemma filesOf_library :
    filesOf library "lib" =
      [⟨"lib/a/z.json", .ok emptySheet⟩, ⟨"lib/a-b.json", .ok emptySheet⟩] := by
  have hnames : ["a-b.json", ".json", "z.json", "a.txt"].map isTreeName =
      [true, false, true, false] := by decide
  have hle : stepsLe ["a-b.json"] ["a", "z.json"] = false := by decide
  have hdeep : joinPath "lib" ["a", "z.json"] = "lib/a/z.json" := by decide +kernel
  have hflat : joinPath "lib" ["a-b.json"] = "lib/a-b.json" := by decide +kernel
  simp only [List.map_cons, List.cons.injEq] at hnames
  simp [filesOf, sourcesOf, library, libraryEntries, Entry.closedParts, Entry.closedPartsIn,
    treeFiles, Entry.files, Entry.filesIn, hnames, List.mergeSort, hle, hdeep, hflat]

/-- The paths of a run: the directory twice, the file, and a path without one. -/
def libraryPaths : List String := ["lib", "notes.txt", "gone.json", "lib"]

/-- The order of the entries does not matter, but that of the components does. -/
theorem sources_expand_library :
    sources libraryTurned libraryPaths =
      .ok [⟨"lib/a/z.json", .ok emptySheet⟩, ⟨"lib/a-b.json", .ok emptySheet⟩,
        ⟨"notes.txt", .ok emptySheet⟩, ⟨"gone.json", .error .notFound⟩,
        ⟨"lib/a/z.json", .ok emptySheet⟩, ⟨"lib/a-b.json", .ok emptySheet⟩] := by
  have hregular : ∀ path ∈ libraryPaths, ∀ e, library path = .ok e → e.Regular := by
    have hlib : ∀ e, library "lib" = .ok e → e.Regular := by
      rintro _ ⟨⟩
      exact regular_libraryEntries
    have hnotes : ∀ e, library "notes.txt" = .ok e → e.Regular := by
      rintro _ ⟨⟩
      exact trivial
    have hgone : ∀ e, library "gone.json" = .ok e → e.Regular := by
      rintro _ ⟨⟩
    simp only [libraryPaths, List.forall_mem_cons, List.not_mem_nil, false_imp_iff, implies_true,
      and_true]
    exact ⟨hlib, hnotes, hgone, hlib⟩
  have hturned : ∀ path ∈ libraryPaths, SameButOrder (library path) (libraryTurned path) := by
    have hlib : SameButOrder (library "lib") (libraryTurned "lib") :=
      .found (.directory (.refl libraryEntries) libraryEntries.reverse_perm.symm)
    have hnotes : SameButOrder (library "notes.txt") (libraryTurned "notes.txt") :=
      .found (.same _)
    have hgone : SameButOrder (library "gone.json") (libraryTurned "gone.json") := .missing _
    simp only [libraryPaths, List.forall_mem_cons, List.not_mem_nil, false_imp_iff, implies_true,
      and_true]
    exact ⟨hlib, hnotes, hgone, hlib⟩
  obtain ⟨htold, hmissing, hfile, -, hsame⟩ := sources_expand hregular
  rw [hsame libraryTurned hturned, htold, libraryPaths]
  simp only [List.flatMap_cons, List.flatMap_nil, filesOf_library, hfile "notes.txt" _ rfl,
    hmissing "gone.json" _ rfl]
  rfl

end SheetCheck.Command
