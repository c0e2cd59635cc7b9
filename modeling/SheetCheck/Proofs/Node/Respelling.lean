import SheetCheck.Proofs.Node.Agreement
import SheetCheck.Proofs.Node.KindSpelling

/-!
# The spellings of a tree

A tree may be written in many ways: the members of an object in any order, with others between
them, without those that hold what is assumed anyway, or as an array.  `Node.Respelled` describes
them for a whole tree, where each part of it may be written in another way.  The main result is
`Node.ofText_of_respelled`: all texts of such a value hold the tree.
-/

namespace SheetCheck

open Json (Cause Laid Value written_quote)

namespace Node

mutual

/-- What is told about a tree. -/
def slots : Node → List Slot
  | ⟨kind, children, filename, line⟩ =>
    [⟨"kind", kind.Respelled, False⟩,
      ⟨"children", fun v => ∃ vs, v = .array vs ∧ AllRespelled children vs, children = []⟩,
      ⟨"filename", (· = .ofString? filename), filename = none⟩,
      ⟨"line", (· = .ofNat line.toNat), line = 0⟩]

/-- The ways to write some trees, one after the other. -/
def AllRespelled : List Node → List Value → Prop
  | [], vs => vs = []
  | n :: ns, vs => ∃ u us, vs = u :: us ∧ SpelledBy (slots n) u ∧ AllRespelled ns us

end

/-- The ways to write a tree. -/
def Respelled (n : Node) : Value → Prop := SpelledBy n.slots

/-! ### Trees are read from their spellings -/

/-- The members of a node are read wherever they stand. -/
lemma foldlM_add_eq_ok {ms : List (String × Value)} {met met' : Met}
    (hkind : onlyMember Kind.ofValue met.kind (named "kind" ms) = .ok met'.kind)
    (hchildren : onlyMember childrenOfValue met.children (named "children" ms) = .ok met'.children)
    (hfilename : onlyMember filenameOfValue met.filename (named "filename" ms) = .ok met'.filename)
    (hline : onlyMember lineOfValue met.line (named "line" ms) = .ok met'.line) :
    ms.foldlM Met.add met = .ok met' := by
  induction ms generalizing met with
  | nil =>
      obtain ⟨kind, children, filename, line⟩ := met
      obtain rfl := Except.ok.inj hkind
      obtain rfl := Except.ok.inj hchildren
      obtain rfl := Except.ok.inj hfilename
      obtain rfl := Except.ok.inj hline
      rfl
  | cons m ms ih =>
      rw [List.foldlM_cons]
      by_cases hm : m.1 = "kind"
      · obtain ⟨hnone, k, hk, hrest⟩ := onlyMember_named_cons hm hkind
        rw [named_cons_of_ne (by simp [hm])] at hchildren hfilename hline
        have hadd : met.add m = .ok { met with kind := some k } := by
          simp [Met.addWith, Met.has, hm, hnone, hk]
        rw [hadd]
        exact ih hrest hchildren hfilename hline
      rw [named_cons_of_ne hm] at hkind
      by_cases hm₁ : m.1 = "children"
      · obtain ⟨hnone, ns, hns, hrest⟩ := onlyMember_named_cons hm₁ hchildren
        rw [named_cons_of_ne (by simp [hm₁])] at hfilename hline
        have hadd : met.add m = .ok { met with children := some ns } := by
          simp [Met.addWith, Met.has, hm₁, hnone, hns]
        rw [hadd]
        exact ih hkind hrest hfilename hline
      rw [named_cons_of_ne hm₁] at hchildren
      by_cases hm₂ : m.1 = "filename"
      · obtain ⟨hnone, f, hf, hrest⟩ := onlyMember_named_cons hm₂ hfilename
        rw [named_cons_of_ne (by simp [hm₂])] at hline
        have hadd : met.add m = .ok { met with filename := some f } := by
          simp [Met.addWith, Met.has, hm₂, hnone, hf]
        rw [hadd]
        exact ih hkind hchildren hrest hline
      rw [named_cons_of_ne hm₂] at hfilename
      by_cases hm₃ : m.1 = "line"
      · obtain ⟨hnone, l, hl, hrest⟩ := onlyMember_named_cons hm₃ hline
        have hadd : met.add m = .ok { met with line := some l } := by
          simp [Met.addWith, Met.has, hm₃, hnone, hl]
        rw [hadd]
        exact ih hkind hchildren hfilename hrest
      rw [named_cons_of_ne hm₃] at hline
      have hadd : met.add m = .ok met := by simp [Met.addWith, Met.has, hm, hm₁, hm₂, hm₃]
      rw [hadd]
      exact ih hkind hchildren hfilename hline

lemma filenameOfValue_ofString? (filename : Option String) :
    filenameOfValue (.ofString? filename) = .ok filename := by
  cases filename <;> rfl

lemma lineOfValue_ofNat (line : UInt64) : lineOfValue (.ofNat line.toNat) = .ok line := by
  have hrange : (0 : Int) ≤ line.toNat ∧ (line.toNat : Int) < UInt64.size :=
    ⟨Int.natCast_nonneg _, Int.ofNat_lt.2 line.toNat_lt⟩
  rw [Value.ofNat, lineOfValue, lineOf, if_pos hrange, Int.toNat_natCast, UInt64.ofNat_toNat]

/-- A node is read from each of its spellings, if its children are. -/
lemma ofValue_of_spelledBy {n : Node} {v : Value}
    (hall : ∀ vs, AllRespelled n.children vs → ofValues vs = .ok n.children)
    (h : n.Respelled v) : ofValue v = .ok n := by
  obtain ⟨kind, children, filename, line⟩ := n
  have hkind : ∀ v, kind.Respelled v → Kind.ofValue v = .ok kind :=
    fun _ => Kind.ofValue_of_respelled
  have hchildren : ∀ v, (∃ vs, v = .array vs ∧ AllRespelled children vs) →
      childrenOfValue v = .ok children := by
    rintro _ ⟨vs, rfl, hvs⟩
    rw [childrenOfValue]
    exact hall vs hvs
  have hfilename : ∀ v, v = .ofString? filename → filenameOfValue v = .ok filename := by
    rintro _ rfl
    exact filenameOfValue_ofString? filename
  have hline : ∀ v, v = .ofNat line.toNat → lineOfValue v = .ok line := by
    rintro _ rfl
    exact lineOfValue_ofNat line
  rw [Respelled, slots] at h
  cases h with
  | @object kept others ms hkept hothers hperm =>
      have hfound := hkept.foundIn_of_perm (by simp) hothers hperm
      simp only [List.forall_mem_cons] at hfound
      obtain ⟨fkind, fchildren, ffilename, fline, -⟩ := hfound
      obtain ⟨ns, rchildren, hns⟩ := fchildren.onlyMember_eq_ok hchildren id
      obtain ⟨f, rfilename, hf⟩ := ffilename.onlyMember_eq_ok hfilename id
      obtain ⟨l, rline, hl⟩ := fline.onlyMember_eq_ok hline id
      have hfold : ms.foldlM Met.add .nothing = .ok ⟨some kind, ns, f, l⟩ :=
        foldlM_add_eq_ok (fkind.onlyMember_eq_some hkind id) rchildren rfilename rline
      have hnode : Met.node ⟨some kind, ns, f, l⟩ = .ok ⟨kind, children, filename, line⟩ := by
        rw [Met.node, hns, hf, hl]
      rw [ofValue, ofMembers_eq_foldlM, hfold]
      exact hnode
  | @array vs hitems =>
      cases hitems with
      | done hoptional => exact (hoptional _ (.head _)).elim
      | @item _ _ v vs hv htail =>
          have hmore : noMoreItems 3 vs = .ok () := if_pos htail.length_le
          rw [ofValue_array, hkind v hv, htail.itemOfValue?_eq_ok hchildren id,
            htail.tail.itemOfValue?_eq_ok hfilename id,
            htail.tail.tail.itemOfValue?_eq_ok hline id, hmore]
          rfl

mutual

lemma ofValue_of_respelled : ∀ (n : Node) (v : Value), n.Respelled v → ofValue v = .ok n
  | ⟨_, children, _, _⟩, _, h => ofValue_of_spelledBy (ofValues_of_allRespelled children) h

lemma ofValues_of_allRespelled : ∀ (ns : List Node) (vs : List Value), AllRespelled ns vs →
    ofValues vs = .ok ns
  | [], _, h => by
      rw [AllRespelled] at h
      rw [h, ofValues]
  | n :: ns, _, h => by
      rw [AllRespelled] at h
      obtain ⟨u, us, rfl, hu, hus⟩ := h
      rw [ofValues, ofValue_of_respelled n u hu, ofValues_of_allRespelled ns us hus]
      rfl

end

/-- Every spelling of a tree reads back as that tree, from all its texts. -/
theorem ofText_of_respelled {n : Node} {v : Value} {text : List Char} (h : n.Respelled v)
    (hdepth : v.depth ≤ 127) (htext : v.Written text) : ofText (String.ofList text) = .ok n := by
  have hvalue : ofValue v = .ok n := ofValue_of_respelled n v h
  exact (ofText_eq_ok_iff htext hdepth n).2 hvalue

/-! A sheet with one property.  Its members stand in another order, one is unknown, and the node of
the property, the kind of the sheet and the value of the property are arrays. -/

/-- The property. -/
def colorProperty : Node := ⟨.property ⟨"color", .string "red", .new⟩, [], none, 0⟩

/-- The sheet with its property. -/
def colorSheet : Node := ⟨.root "", [colorProperty], none, 4⟩

/-- The property without what is assumed anyway. -/
def colorSpelling : Value :=
  .array [.object [("value", .array [.string "string", .string "red"]), ("name", .string "color"),
    ("type", .string "property")]]

/-- The sheet with a note. -/
def colorSheetSpelling : Value :=
  .object [("note", .array [.object [("kind", .null)]]), ("line", .ofNat 4),
    ("children", .array [colorSpelling]), ("kind", .array [.string "root"])]

lemma respelled_colorSheetSpelling : colorSheet.Respelled colorSheetSpelling := by
  have hvalue : (PropertyValue.string "red").Respelled (.array [.string "string", .string "red"]) :=
    .array (.item rfl (.item rfl (.done (by simp))))
  have hproperty : (Kind.property ⟨"color", .string "red", .new⟩).Respelled (.object
      [("value", .array [.string "string", .string "red"]), ("name", .string "color"),
        ("type", .string "property")]) :=
    @SpelledBy.object _ _ [] _ (.keep rfl (.keep rfl (.keep hvalue (.leave rfl .nil)))) (by simp)
      (List.reverse_perm [_, _, _])
  have hroot : (Kind.root "").Respelled (.array [.string "root"]) :=
    .array (.item rfl (.done (by simp [Kind.payloadSlots])))
  have hchild : colorProperty.Respelled colorSpelling :=
    .array (.item hproperty (.done (by simp)))
  exact @SpelledBy.object _ _ [("note", _)] _
    (.keep hroot (.keep ⟨_, rfl, _, _, rfl, hchild, rfl⟩ (.leave rfl (.keep rfl .nil))))
    (by simp [colorSheet, slots]) (List.reverse_perm [_, _, _, _])

theorem ofText_colorSheet :
    ofText ("\x7b\"note\" : [\x7b\"kind\":null\x7d],\n \"line\": 4,\"children\":" ++
      "[[\x7b\"value\":[\"string\",\"red\"],\"name\":\"color\",\"type\":\"property\"\x7d]]," ++
        "\"kind\":[\"root\"]\x7d ") = .ok colorSheet := by
  have hnote : Value.FitsWords (.array [.object [("kind", .null)]]) := by
    simp [Value.FitsWords, Value.ItemsFitWords, Value.MembersFitWords]
  have hline : Value.FitsWords (.ofNat 4) := by simp [Value.ofNat, Value.FitsWords]
  have hchildren : Value.FitsWords (.array [colorSpelling]) := by
    simp [colorSpelling, Value.FitsWords, Value.ItemsFitWords, Value.MembersFitWords]
  have hkind : Value.FitsWords (.array [.string "root"]) := by
    simp [Value.FitsWords, Value.ItemsFitWords]
  have blank {ts : List Json.Token} {text : List Char} : Laid ts text → Laid ts (' ' :: text) :=
    .space rfl
  have newline {ts : List Json.Token} {text : List Char} : Laid ts text → Laid ts ('\n' :: text) :=
    .space rfl
  have htext : colorSheetSpelling.Written _ :=
    .token (.mark .openObject) <| .token (written_quote "note") <| blank <|
      .token (.mark .colon) <| blank <| Value.laid_write _ hnote <|
    .token (.mark .comma) <| newline <| blank <| .token (written_quote "line") <|
      .token (.mark .colon) <| blank <| Value.laid_write _ hline <|
    .token (.mark .comma) <| .token (written_quote "children") <|
      .token (.mark .colon) <| Value.laid_write _ hchildren <|
    .token (.mark .comma) <| .token (written_quote "kind") <|
      .token (.mark .colon) <| Value.laid_write _ hkind <|
    .token (.mark .closeObject) <| blank .done
  have hread := ofText_of_respelled respelled_colorSheetSpelling (by decide) htext
  refine Eq.trans (congrArg ofText ?_) hread
  decide +kernel

end Node

end SheetCheck
