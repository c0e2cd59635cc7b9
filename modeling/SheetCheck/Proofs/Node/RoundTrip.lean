import SheetCheck.Proofs.Node.Respelling

/-!
# Writing a tree and reading it

The JSON form of a tree is read back as the tree.  Read from its compact text, a tree must not have
too many levels of nodes: with every level two more brackets are open at once, that of the node and
that of the children around it, and the kind within the innermost node takes another one.  So 63
levels can be read, and with one more the reader stops (`Node.roundTrip`).
-/

namespace SheetCheck

open Json Json.Reader Json.Input

/-! ### The order of members

The members of an object need not keep the order in which they were written. -/

namespace Json.Value

mutual

/-- A value with the members of its objects in another order. -/
inductive Reordered : Value → Value → Prop
  | same (v : Value) : Reordered v v
  | array {vs us : List Value} : ItemsReordered vs us → Reordered (.array vs) (.array us)
  | object {ms ks us : List (String × Value)} : MembersReordered ms ks → us.Perm ks →
      Reordered (.object ms) (.object us)

/-- Items of which each may have its members in another order. -/
inductive ItemsReordered : List Value → List Value → Prop
  | nil : ItemsReordered [] []
  | cons {v u : Value} {vs us : List Value} : Reordered v u → ItemsReordered vs us →
      ItemsReordered (v :: vs) (u :: us)

/-- Members of which each may have its members in another order. -/
inductive MembersReordered : List (String × Value) → List (String × Value) → Prop
  | nil : MembersReordered [] []
  | cons {key : String} {v u : Value} {ms us : List (String × Value)} : Reordered v u →
      MembersReordered ms us → MembersReordered ((key, v) :: ms) ((key, u) :: us)

end

variable {v : Value} {vs : List Value} {ms : List (String × Value)}

lemma ItemsReordered.refl : ∀ vs : List Value, ItemsReordered vs vs
  | [] => .nil
  | v :: vs => .cons (.same v) (refl vs)

lemma MembersReordered.refl : ∀ ms : List (String × Value), MembersReordered ms ms
  | [] => .nil
  | (_, v) :: ms => .cons (.same v) (refl ms)

lemma Reordered.exists_array (h : (Value.array vs).Reordered v) :
    ∃ us, v = .array us ∧ ItemsReordered vs us := by
  cases h with
  | same => exact ⟨vs, rfl, .refl vs⟩
  | array h => exact ⟨_, rfl, h⟩

lemma Reordered.exists_object (h : (Value.object ms).Reordered v) :
    ∃ ks us, v = .object us ∧ MembersReordered ms ks ∧ us.Perm ks := by
  cases h with
  | same => exact ⟨ms, ms, rfl, .refl ms, .refl ms⟩
  | object h hperm => exact ⟨_, _, rfl, h, hperm⟩

/-- A value without members has no order. -/
lemma Reordered.eq_of_depth {u : Value} (h : u.Reordered v) (hu : u.depth = 0) : v = u := by
  cases h with
  | same => rfl
  | array => simp [depth] at hu
  | object => simp [depth] at hu

end Json.Value

/-! ### The written form is a spelling -/

variable {v : Value}

lemma PropertyValue.respelled_of_reordered {value : PropertyValue} (h : value.toJson.Reordered v) :
    value.Respelled v := by
  obtain ⟨ks, us, rfl, _ | ⟨htype, _ | ⟨htext, ⟨⟩⟩⟩, hperm⟩ := h.exists_object
  exact .of_kept (.keep (htype.eq_of_depth rfl) (.keep (htext.eq_of_depth rfl) .nil)) hperm

namespace Kind

variable {kind : Kind}

lemma keptMembers_of_reordered {ms : List (String × Value)}
    (h : Value.MembersReordered kind.payload ms) : KeptMembers kind.payloadSlots ms := by
  cases kind with
  | property p =>
      obtain _ | ⟨hname, _ | ⟨hvalue, _ | ⟨hstyle, ⟨⟩⟩⟩⟩ := h
      have hvalue := PropertyValue.respelled_of_reordered hvalue
      exact .keep (hname.eq_of_depth rfl) (.keep hvalue (.keep (hstyle.eq_of_depth rfl) .nil))
  | root | rule | directive | media | mixinDef | mixin | function | variableDef | importSheet
    | charset | extend =>
      obtain _ | ⟨htext, ⟨⟩⟩ := h
      exact .keep (htext.eq_of_depth rfl) .nil
  | returnValue | comment | debug | warn | eachLoop | forLoop | ifBranch | whileLoop =>
      cases h
      exact .nil

lemma respelled_of_reordered (h : kind.toJson.Reordered v) : kind.Respelled v := by
  obtain ⟨ks, us, rfl, _ | ⟨htype, hpayload⟩, hperm⟩ := h.exists_object
  exact .of_kept (.keep (htype.eq_of_depth rfl) (keptMembers_of_reordered hpayload)) hperm

end Kind

namespace Node

mutual

lemma respelled_of_reordered : ∀ (n : Node) (v : Value), n.toJson.Reordered v → n.Respelled v
  | ⟨kind, children, filename, line⟩, v, h => by
      rw [toJson] at h
      obtain ⟨ks, us, rfl, _ | ⟨hkind, _ | ⟨hchildren, _ | ⟨hfilename, _ | ⟨hline, ⟨⟩⟩⟩⟩⟩, hperm⟩ :=
        h.exists_object
      obtain ⟨vs, rfl, hvs⟩ := hchildren.exists_array
      have hfilename := hfilename.eq_of_depth (by cases filename <;> rfl)
      have hline := hline.eq_of_depth rfl
      rw [Respelled, slots]
      exact .of_kept (.keep (Kind.respelled_of_reordered hkind)
        (.keep ⟨vs, rfl, allRespelled_of_reordered children vs hvs⟩
          (.keep hfilename (.keep hline .nil)))) hperm

lemma allRespelled_of_reordered : ∀ (ns : List Node) (vs : List Value),
    Value.ItemsReordered (toJsonAll ns) vs → AllRespelled ns vs
  | [], vs, h => by
      rw [toJsonAll] at h
      cases h
      rw [AllRespelled]
  | n :: ns, vs, h => by
      rw [toJsonAll] at h
      obtain _ | ⟨hn, hns⟩ := h
      rw [AllRespelled]
      exact ⟨_, _, rfl, respelled_of_reordered n _ hn, allRespelled_of_reordered ns _ hns⟩

end

lemma ofValue_toJson (n : Node) : ofValue n.toJson = .ok n :=
  ofValue_of_respelled n _ (respelled_of_reordered n _ (.same _))

/-! ### The written form has a compact text -/

lemma fitsWords_ofNat (line : UInt64) : (Value.ofNat line.toNat).FitsWords := by
  have h := line.toNat_lt
  simp only [Value.ofNat, Value.FitsWords]
  omega

lemma fitsWords_kind (kind : Kind) : kind.toJson.FitsWords := by
  cases kind <;> simp [Kind.toJson, Kind.payload, PropertyValue.toJson, Value.FitsWords,
    Value.MembersFitWords]

mutual

lemma fitsWords_toJson : ∀ n : Node, n.toJson.FitsWords
  | ⟨kind, children, filename, line⟩ => by
      rw [toJson, Value.FitsWords]
      refine ⟨fitsWords_kind kind, fitsWords_toJsonAll children, ?_, fitsWords_ofNat line, trivial⟩
      cases filename <;> exact trivial

lemma fitsWords_toJsonAll : ∀ ns : List Node, Value.ItemsFitWords (toJsonAll ns)
  | [] => by
      rw [toJsonAll]
      exact trivial
  | n :: ns => by
      rw [toJsonAll]
      exact ⟨fitsWords_toJson n, fitsWords_toJsonAll ns⟩

end

/-! ### Levels -/

mutual

/-- The number of levels of nodes in a tree. -/
def height : Node → ℕ
  | ⟨_, children, _, _⟩ => heightAll children + 1

/-- The greatest number of levels in some trees. -/
def heightAll : List Node → ℕ
  | [] => 0
  | n :: ns => max (height n) (heightAll ns)

end

/-- The tree, if it has no more than `levels` levels. -/
def within (levels : ℕ) (n : Node) : Except Cause Node :=
  if n.height ≤ levels then .ok n else .error .tooDeep

lemma mapM_within (levels : ℕ) (ns : List Node) :
    ns.mapM (within levels) = if heightAll ns ≤ levels then .ok ns else .error .tooDeep := by
  induction ns with
  | nil => rfl
  | cons n ns ih =>
      rw [List.mapM_cons, ih]
      by_cases hn : n.height ≤ levels
      · by_cases hns : heightAll ns ≤ levels
        · simp only [within, heightAll, Nat.max_le, hn, hns, and_self, if_true]
          rfl
        · simp only [within, heightAll, Nat.max_le, hn, hns, and_false, if_true, if_false]
          rfl
      · simp only [within, heightAll, Nat.max_le, hn, false_and, if_false]
        rfl

/-- A node with its children is within one level more. -/
lemma within_succ (levels : ℕ) (n : Node) :
    within (levels + 1) n =
      (fun ns => ⟨n.kind, ns, n.filename, n.line⟩) <$> n.children.mapM (within levels) := by
  obtain ⟨kind, children, filename, line⟩ := n
  rw [mapM_within, within, height]
  by_cases h : heightAll children ≤ levels
  · simp [h]
  · simp [h]

/-! ### Reading the compact text -/

lemma toJsonAll_eq_map (ns : List Node) : toJsonAll ns = ns.map toJson := by
  induction ns with
  | nil => rw [toJsonAll, List.map_nil]
  | cons n ns ih => rw [toJsonAll, ih, List.map_cons]

variable {inner levels : ℕ} {child : Reader Node}

/-- The children are read one after the other, as far as their levels allow. -/
lemma agrees_readChildren_toJson
    (hchild : ∀ n ts, Agrees Eq (Shows (n.toJson.tokens ts)) child (within levels n) (Shows ts))
    (ns : List Node) (ts : List Token) :
    Agrees Eq (Shows ((Value.array (toJsonAll ns)).tokens ts)) (readChildren (inner + 1) child)
      (ns.mapM (within levels)) (Shows ts) := by
  have hitem : ∀ v ∈ toJsonAll ns, ∀ ts', Followed ts' →
      Agrees Eq (Shows (v.tokens ts')) child (ofValue v >>= within levels) (Shows ts') := by
    rw [toJsonAll_eq_map]
    intro v hv ts' _
    obtain ⟨n, -, rfl⟩ := List.mem_map.1 hv
    rw [ofValue_toJson]
    exact hchild n ts'
  have hall : (toJsonAll ns).mapM (fun v => ofValue v >>= within levels) =
      ns.mapM (within levels) := by
    rw [toJsonAll_eq_map, List.mapM_map]
    exact congrArg (fun f => ns.mapM f) (funext fun n => by rw [Function.comp, ofValue_toJson]; rfl)
  rw [← hall]
  refine Reads.peekToken_bind fun c hc => ?_
  obtain rfl : c = '[' := hc
  exact Agrees.bracketed .openList (agrees_items hitem true ts) takes_closeList

/-- A node is read if its kind and its children are. -/
lemma agrees_readWith_toJson {kindRead : Except Cause Kind}
    {childrenRead : Except Cause (List Node)} (n : Node)
    (hkind : ∀ ts, Agrees Eq (Shows (n.kind.toJson.tokens ts)) (Kind.read inner) kindRead
      (Shows ts))
    (hchildren : ∀ ts, Agrees Eq (Shows ((Value.array (toJsonAll n.children)).tokens ts))
      (readChildren inner child) childrenRead (Shows ts)) (ts : List Token) :
    Agrees Eq (Shows (n.toJson.tokens ts)) (readWith (inner + 1) child) (do
      let kind ← kindRead
      let children ← childrenRead
      pure ⟨kind, children, n.filename, n.line⟩) (Shows ts) := by
  obtain ⟨kind, children, filename, line⟩ := n
  have hfold : ([("kind", kind.toJson), ("children", .array (toJsonAll children)),
      ("filename", .ofString? filename), ("line", .ofNat line.toNat)].foldlM
        (Met.addWith (fun _ => kindRead) fun _ => childrenRead) .nothing >>= Met.node) = (do
      let kind ← kindRead
      let children ← childrenRead
      pure ⟨kind, children, filename, line⟩) := by
    cases kindRead with
    | error c => rfl
    | ok kind =>
        cases childrenRead with
        | error c => rfl
        | ok children' =>
            simp only [List.foldlM_cons, List.foldlM_nil, Met.addWith, Met.has, Met.nothing,
              filenameOfValue_ofString?, lineOfValue_ofNat]
            rfl
  rw [← hfold, toJson]
  refine Reads.peekToken_bind fun c hc => ?_
  obtain rfl : c = '\x7b' := hc
  refine Agrees.bracketed .openObject (agrees_readMembers (fun _ => rfl) ?_ ts) takes_closeObject
  intro m hm ts' hts'
  simp only [List.mem_cons, List.not_mem_nil, or_false] at hm
  rcases hm with rfl | rfl | rfl | rfl
  · exact {
      kind := fun _ => hkind ts'
      children := by simp
      filename := by simp
      line := by simp }
  · exact {
      kind := by simp
      children := fun _ => hchildren ts'
      filename := by simp
      line := by simp }
  · have hread := same_readFilename (.ofString? filename) ts'
    exact {
      kind := by simp
      children := by simp
      filename := fun _ => hread.of_eq_ok (filenameOfValue_ofString? filename)
      line := by simp }
  · have hread := same_readLine (.ofNat line.toNat) hts'
    exact {
      kind := by simp
      children := by simp
      filename := by simp
      line := fun _ => hread.of_eq_ok (lineOfValue_ofNat line) }

lemma depth_kind_le (kind : Kind) : kind.toJson.depth ≤ 2 := by
  cases kind <;> simp [Kind.toJson, Kind.payload, PropertyValue.toJson, Value.depth,
    Value.depthOfMembers]

lemma height_pos (n : Node) : 0 < n.height := by
  obtain ⟨kind, children, filename, line⟩ := n
  rw [height]
  exact Nat.succ_pos _

/-- Two brackets for every level and one for the kind of the innermost node are needed. -/
lemma agrees_read_toJson (levels : ℕ) (n : Node) (ts : List Token) :
    Agrees Eq (Shows (n.toJson.tokens ts)) (read (2 * levels + 1)) (within levels n)
      (Shows ts) := by
  induction levels generalizing n ts with
  | zero =>
      have hkind : ∀ ts, Agrees Eq (Shows (n.kind.toJson.tokens ts)) (Kind.read 0) (.error .tooDeep)
          (Shows ts) := by
        intro ts
        refine Agrees.of_stops (Reads.peekToken_bind fun c hc => ?_)
        obtain rfl : c = '\x7b' := hc
        exact Reads.bind_stops (Reads.stopAhead rfl)
      have hchildren : ∀ ts, Agrees Eq (Shows ((Value.array (toJsonAll n.children)).tokens ts))
          (readChildren 0 (stopAhead .tooDeep)) (.error .tooDeep) (Shows ts) := by
        intro ts
        refine Agrees.of_stops (Reads.peekToken_bind fun c hc => ?_)
        obtain rfl : c = '[' := hc
        exact Reads.stopAhead rfl
      rw [within, if_neg (Nat.not_le_of_lt n.height_pos)]
      exact agrees_readWith_toJson n hkind hchildren ts
  | succ levels ih =>
      have hkind : ∀ ts, Agrees Eq (Shows (n.kind.toJson.tokens ts)) (Kind.read (2 * levels + 2))
          (.ok n.kind) (Shows ts) := by
        intro ts
        have hdepth : n.kind.toJson.depth ≤ 2 * levels + 2 :=
          Nat.le_trans (depth_kind_le n.kind) (Nat.le_add_left _ _)
        have hvalue := Kind.ofValue_of_respelled (Kind.respelled_of_reordered (.same n.kind.toJson))
        rw [← hvalue]
        exact (Kind.same_read _ hdepth ts).of_eq_ok hvalue
      rw [within_succ, map_eq_pure_bind]
      exact agrees_readWith_toJson n hkind (agrees_readChildren_toJson ih n.children) ts

/-- A tree is read back from the value it is written to, in whatever order the members of its
objects are kept.  From its text it is read back as well if it has at most 63 levels; if it has
more, the text is refused, since too many brackets are open at once. -/
theorem roundTrip (n : Node) :
    (ofValue n.toJson = .ok n ∧ ∀ v, n.toJson.Reordered v → ofValue v = .ok n) ∧
      (n.height ≤ 63 → ofText n.toJson.compact = .ok n) ∧
      (63 < n.height → ∃ refusal, ofText n.toJson.compact = .error refusal ∧
        refusal.cause.category = .malformed ∧
        refusal.cause.message = "recursion limit exceeded") := by
  have hvalue : ∀ v, n.toJson.Reordered v → ofValue v = .ok n := fun v hv =>
    ofValue_of_respelled n v (respelled_of_reordered n v hv)
  have htext : n.toJson.Written n.toJson.text := Value.written_text n.fitsWords_toJson
  have hread := agrees_read_toJson 63 n []
  rw [within] at hread
  refine ⟨⟨hvalue _ (.same _), hvalue⟩, fun hheight => ?_, fun hheight => ?_⟩
  · rw [if_pos hheight] at hread
    exact runAll_eq_ok hread htext
  · rw [if_neg (Nat.not_le_of_lt hheight)] at hread
    obtain ⟨refusal, hrefusal, hcause⟩ := runAll_eq_error hread htext
    exact ⟨refusal, hrefusal, by rw [← hcause]; rfl, by rw [← hcause]; rfl⟩

/-- Conditions within conditions, `n` of them around the innermost one. -/
def nestedConditions : ℕ → Node
  | 0 => ⟨.ifBranch, [], none, 1⟩
  | n + 1 => ⟨.ifBranch, [nestedConditions n], none, 1⟩

lemma height_nestedConditions (n : ℕ) : (nestedConditions n).height = n + 1 := by
  induction n with
  | zero => rw [nestedConditions, height, heightAll]
  | succ n ih => rw [nestedConditions, height, heightAll, heightAll, ih, Nat.max_zero]

theorem roundTrip_nestedConditions :
    ofText (nestedConditions 62).toJson.compact = .ok (nestedConditions 62) ∧
      ∃ refusal, ofText (nestedConditions 63).toJson.compact = .error refusal ∧
        refusal.cause.category = .malformed ∧
        refusal.cause.message = "recursion limit exceeded" := by
  refine ⟨(roundTrip (nestedConditions 62)).2.1 ?_, (roundTrip (nestedConditions 63)).2.2 ?_⟩
  · exact Nat.le_of_eq (height_nestedConditions 62)
  · exact Nat.lt_of_lt_of_eq (by decide) (height_nestedConditions 63).symm

end Node

end SheetCheck
