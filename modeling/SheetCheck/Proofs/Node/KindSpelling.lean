import SheetCheck.Proofs.Node.Slots

/-!
# The spellings of a kind

A kind and the value of a property may be written in many ways.  `Kind.Respelled` describes them,
and all of them are read as the kind (`Kind.ofValue_of_respelled`).
-/

namespace SheetCheck

open Json (Cause Value)

/-! ### The value of a property -/

namespace PropertyValue

/-- What is told about the value of a property. -/
def slots (v : PropertyValue) : List Slot := [.text "type" v.jsonName, .text "text" v.text]

/-- The ways to write the value of a property. -/
def Respelled (v : PropertyValue) : Value → Prop := SpelledBy v.slots

variable {value : PropertyValue} {make : String → PropertyValue} {v : Value} {t : String}
  {ms : List (String × Value)}

lemma maker_jsonName : ∃ make, maker (.string value.jsonName) = .ok make ∧
    leadingMaker (.string value.jsonName) = .ok make ∧ make value.text = value := by
  cases value <;> exact ⟨_, rfl, rfl, rfl⟩

lemma onlyOnce_eq_ok (htype : named "type" ms = []) (htext : named "text" ms = []) :
    onlyOnce ms = .ok () := by
  induction ms with
  | nil => rfl
  | cons m ms ih =>
      obtain ⟨hm, htype⟩ := named_cons_eq_nil_iff.1 htype
      obtain ⟨hm', htext⟩ := named_cons_eq_nil_iff.1 htext
      rw [onlyOnce, if_neg (by simp [hm, hm'])]
      exact ih htype htext

lemma textBehindType_eq_ok (htype : named "type" ms = [])
    (htext : named "text" ms = [("text", .string t)]) : textBehindType make ms = .ok (make t) := by
  induction ms with
  | nil => simp at htext
  | cons m ms ih =>
      obtain ⟨hm, hrest⟩ := named_cons_eq_nil_iff.1 htype
      rcases named_cons_eq_singleton_iff.1 htext with ⟨rfl, hrest'⟩ | ⟨hm', hrest'⟩
      · rw [textBehindType, if_neg hm, if_pos rfl, onlyOnce_eq_ok hrest hrest']
        rfl
      · rw [textBehindType, if_neg hm, if_neg hm']
        exact ih hrest hrest'

lemma typeBehindText_eq_ok (hmake : maker v = .ok make) (htype : named "type" ms = [("type", v)])
    (htext : named "text" ms = []) : typeBehindText (.string t) ms = .ok (make t) := by
  induction ms with
  | nil => simp at htype
  | cons m ms ih =>
      obtain ⟨hm, hrest⟩ := named_cons_eq_nil_iff.1 htext
      rcases named_cons_eq_singleton_iff.1 htype with ⟨rfl, hrest'⟩ | ⟨hm', hrest'⟩
      · have honce := onlyOnce_eq_ok hrest' hrest
        simp only [typeBehindText, hm, if_false, if_true, hmake, honce]
        rfl
      · rw [typeBehindText, if_neg hm, if_neg hm']
        exact ih hrest' hrest

lemma ofMembers_eq_ok (hmake : maker v = .ok make) (htype : named "type" ms = [("type", v)])
    (htext : named "text" ms = [("text", .string t)]) : ofMembers ms = .ok (make t) := by
  induction ms with
  | nil => simp at htype
  | cons m ms ih =>
      rcases named_cons_eq_singleton_iff.1 htype with ⟨rfl, hrest⟩ | ⟨hm, hrest⟩
      · rw [named_cons_of_ne (by simp)] at htext
        rw [ofMembers, if_pos rfl, hmake]
        exact textBehindType_eq_ok hrest htext
      · rcases named_cons_eq_singleton_iff.1 htext with ⟨rfl, hrest'⟩ | ⟨hm', hrest'⟩
        · rw [ofMembers, if_neg hm, if_pos rfl]
          exact typeBehindText_eq_ok hmake hrest hrest'
        · rw [ofMembers, if_neg hm, if_neg hm']
          exact ih hrest hrest'

/-- The value of a property is read from each of its spellings. -/
lemma ofJson_of_respelled (h : value.Respelled v) : ofJson v = .ok value := by
  obtain ⟨make, hmaker, hleading, hmake⟩ := value.maker_jsonName
  cases h with
  | object hkept hothers hperm =>
      have hfound := hkept.foundIn_of_perm (by simp [slots, Slot.text]) hothers hperm
      have htype := (hfound _ (.head _)).named_eq
      have htext := (hfound _ (.tail _ (.head _))).named_eq
      rw [ofJson, ofMembers_eq_ok hmaker htype htext, hmake]
  | array hitems =>
      obtain ⟨_, rfl, htail⟩ := hitems.exists_cons
      obtain ⟨_, rfl, hnil⟩ := htail.exists_cons
      obtain rfl := hnil.eq_nil
      simp only [ofJson, hleading]
      exact congrArg Except.ok hmake

end PropertyValue

namespace Payload

/-- What stands beside a tag tells some things. -/
inductive Tells (slots : List Slot) : Payload → Prop
  | members {ms : List (String × Value)} :
      (∀ slot ∈ slots, slot.FoundIn ms) → Tells slots (.members ms)
  | items {vs : List Value} : KeptItems slots vs → Tells slots (.items vs)

variable {p : Payload} {field : String} {t : String}

lemma textMember_eq_onlyMember (field : String) (found : Option String)
    (ms : List (String × Value)) :
    textMember field found ms = onlyMember text found (named field ms) := by
  induction ms generalizing found with
  | nil => rw [named_nil, textMember, onlyMember]
  | cons m ms ih =>
      by_cases hm : m.1 = field
      · rw [named_cons_of_eq hm]
        cases found with
        | some t => simp only [textMember, onlyMember, hm, if_true]
        | none =>
            simp only [textMember, hm, if_true]
            exact bind_congr fun t => ih (some t)
      · rw [named_cons_of_ne hm]
        simp only [textMember, hm, if_false]
        exact ih found

lemma oneText_eq_ok (owner : String) (h : p.Tells [.text field t]) :
    p.oneText owner field = .ok t := by
  cases h with
  | members hfound =>
      have hnamed := (hfound _ (.head _)).named_eq
      rw [oneText, textMember_eq_onlyMember, hnamed]
      rfl
  | items hitems =>
      obtain ⟨_, rfl, hnil⟩ := hitems.exists_cons
      obtain rfl := hnil.eq_nil
      rfl

lemma oneText?_eq_ok (h : p.Tells [⟨field, (· = .string t), t = ""⟩]) :
    p.oneText? field = .ok t := by
  cases h with
  | members hfound =>
      have htext : ∀ v, v = .string t → text v = .ok t := by
        rintro _ rfl
        rfl
      obtain ⟨found, hread, hget⟩ := (hfound _ (.head _)).onlyMember_eq_ok htext id
      rw [oneText?, textMember_eq_onlyMember, hread, ← hget]
      rfl
  | items hitems =>
      cases hitems with
      | done hoptional => rw [oneText?, show t = "" from hoptional _ (.head _)]
      | item hv hnil =>
          obtain rfl := hnil.eq_nil
          rw [show _ = Value.string t from hv]
          rfl

lemma nothing_eq_ok (h : p.Tells []) : p.nothing = .ok () := by
  cases h with
  | members => rfl
  | items hnil =>
      obtain rfl := hnil.eq_nil
      rfl

end Payload

/-! ### Properties -/

namespace Property

/-- What is told about a property. -/
def slots (p : Property) : List Slot :=
  [.text "name" p.name, ⟨"value", p.value.Respelled, False⟩,
    ⟨"syntax", (· = .string p.style.jsonName), p.style = .new⟩]

/-- The members of a property are read wherever they stand. -/
lemma foldlM_add_eq_ok {ms : List (String × Value)} {met met' : Met}
    (hname : onlyMember Payload.text met.name (named "name" ms) = .ok met'.name)
    (hvalue : onlyMember PropertyValue.ofJson met.value (named "value" ms) = .ok met'.value)
    (hstyle : onlyMember Style.ofJson met.style (named "syntax" ms) = .ok met'.style) :
    ms.foldlM Met.add met = .ok met' := by
  induction ms generalizing met with
  | nil =>
      obtain ⟨name, value, style⟩ := met
      obtain rfl := Except.ok.inj hname
      obtain rfl := Except.ok.inj hvalue
      obtain rfl := Except.ok.inj hstyle
      rfl
  | cons m ms ih =>
      rw [List.foldlM_cons]
      by_cases hm : m.1 = "name"
      · obtain ⟨hnone, t, ht, hrest⟩ := onlyMember_named_cons hm hname
        rw [named_cons_of_ne (by simp [hm])] at hvalue hstyle
        have hadd : met.add m = .ok { met with name := some t } := by simp [Met.add, hm, hnone, ht]
        rw [hadd]
        exact ih hrest hvalue hstyle
      rw [named_cons_of_ne hm] at hname
      by_cases hm' : m.1 = "value"
      · obtain ⟨hnone, v, hv, hrest⟩ := onlyMember_named_cons hm' hvalue
        rw [named_cons_of_ne (by simp [hm'])] at hstyle
        have hadd : met.add m = .ok { met with value := some v } := by
          simp [Met.add, hm', hnone, hv]
        rw [hadd]
        exact ih hname hrest hstyle
      rw [named_cons_of_ne hm'] at hvalue
      by_cases hm'' : m.1 = "syntax"
      · obtain ⟨hnone, s, hs, hrest⟩ := onlyMember_named_cons hm'' hstyle
        have hadd : met.add m = .ok { met with style := some s } := by
          simp [Met.add, hm'', hnone, hs]
        rw [hadd]
        exact ih hname hvalue hrest
      rw [named_cons_of_ne hm''] at hstyle
      have hadd : met.add m = .ok met := by simp [Met.add, hm, hm', hm'']
      rw [hadd]
      exact ih hname hvalue hstyle

lemma ofJson_jsonName (s : Style) : Style.ofJson (.string s.jsonName) = .ok s := by
  cases s <;> rfl

lemma ofPayload_eq_ok {p : Property} {payload : Payload} (h : payload.Tells p.slots) :
    ofPayload payload = .ok p := by
  have hname : ∀ v, (Slot.text "name" p.name).Spells v → Payload.text v = .ok p.name := by
    rintro _ rfl
    rfl
  have hstyle : ∀ v, v = .string p.style.jsonName → Style.ofJson v = .ok p.style := by
    rintro _ rfl
    exact ofJson_jsonName p.style
  cases h with
  | @members ms hfound =>
      have hname := (hfound _ (.head _)).onlyMember_eq_some hname id
      have hvalue := (hfound _ (.tail _ (.head _))).onlyMember_eq_some
        (fun _ => PropertyValue.ofJson_of_respelled) id
      obtain ⟨style, hstyle, hget⟩ :=
        (hfound _ (.tail _ (.tail _ (.head _)))).onlyMember_eq_ok hstyle id
      have hfold : ms.foldlM Met.add ⟨none, none, none⟩ = .ok ⟨some p.name, some p.value, style⟩ :=
        foldlM_add_eq_ok hname hvalue hstyle
      have hend : ofMembers ⟨some p.name, some p.value, style⟩ [] = .ok p := by rw [ofMembers, hget]
      rw [ofPayload, ofMembers_eq_foldlM, hfold]
      exact hend
  | items hitems =>
      obtain ⟨_, rfl, htail⟩ := hitems.exists_cons
      cases htail with
      | done hoptional => exact (hoptional _ (.head _)).elim
      | @item _ _ value _ hvalue htail =>
          have hvalue := PropertyValue.ofJson_of_respelled hvalue
          cases htail with
          | done hoptional =>
              have hnew : p.style = .new := hoptional _ (.head _)
              simp only [ofPayload, Payload.text, hvalue]
              rw [← hnew]
              rfl
          | item hspells hnil =>
              obtain rfl := hnil.eq_nil
              simp only [ofPayload, Payload.text, hvalue, hstyle _ hspells]
              rfl

end Property

/-! ### Kinds -/

namespace Kind

/-- What is told about a kind beside its tag. -/
def payloadSlots : Kind → List Slot
  | root template => [⟨"template", (· = .string template), template = ""⟩]
  | property p => p.slots
  | kind => kind.payload.map fun m => ⟨m.1, (· = m.2), False⟩

/-- What is told about a kind. -/
def slots (kind : Kind) : List Slot := .text "type" kind.tag.jsonName :: kind.payloadSlots

/-- The ways to write a kind. -/
def Respelled (kind : Kind) : Value → Prop := SpelledBy kind.slots

lemma nodup_slots (kind : Kind) : (kind.slots.map Slot.name).Nodup := by
  cases kind <;> simp [slots, payloadSlots, payload, Property.slots, Slot.text]

lemma ofPayload_eq_ok {kind : Kind} {p : Payload} (h : p.Tells kind.payloadSlots) :
    ofPayload kind.tag p = .ok kind := by
  cases kind with
  | root template => exact congrArg (root <$> ·) (Payload.oneText?_eq_ok h)
  | property p => exact congrArg (property <$> ·) (Property.ofPayload_eq_ok h)
  | rule | directive | media | mixinDef | mixin | function | variableDef | importSheet | charset
    | extend => exact congrArg (_ <$> ·) (Payload.oneText_eq_ok _ h)
  | returnValue | comment | debug | warn | eachLoop | forLoop | ifBranch | whileLoop =>
      exact congrArg (_ <$> ·) (Payload.nothing_eq_ok h)

/-- The tag is taken from the members, wherever it stands. -/
lemma splitMembers_eq_ok {tag : Tag} (ms : List (String × Value)) (found : Option Tag)
    (others : List (String × Value))
    (h : onlyMember tagOfValue found (named "type" ms) = .ok (some tag)) :
    splitMembers found others ms =
      .ok (tag, .members (others.reverse ++ ms.filter (·.1 ≠ "type"))) := by
  induction ms generalizing found others with
  | nil =>
      obtain rfl := Except.ok.inj h
      simp [splitMembers]
  | cons m ms ih =>
      by_cases hm : m.1 = "type"
      · obtain ⟨rfl, t, ht, hrest⟩ := onlyMember_named_cons hm h
        rw [List.filter_cons_of_neg (by simp [hm])]
        simp only [splitMembers, hm, if_true, ht]
        exact ih (some t) others hrest
      · rw [named_cons_of_ne hm] at h
        rw [List.filter_cons_of_pos (by simp [hm])]
        simp only [splitMembers, hm, if_false]
        rw [ih found (m :: others) h, List.reverse_cons, List.append_assoc, List.singleton_append]

lemma tagOfValue_jsonName (tag : Tag) : tagOfValue (.string tag.jsonName) = .ok tag := by
  rw [tagOfValue, tagNamed, Tag.ofJsonName?_jsonName]

/-- A kind is read from each of its spellings. -/
lemma ofValue_of_respelled {kind : Kind} {v : Value} (h : kind.Respelled v) :
    ofValue v = .ok kind := by
  have htag : ∀ v, (Slot.text "type" kind.tag.jsonName).Spells v → tagOfValue v = .ok kind.tag := by
    rintro _ rfl
    exact tagOfValue_jsonName kind.tag
  cases h with
  | @object kept others ms hkept hothers hperm =>
      have hfound := hkept.foundIn_of_perm kind.nodup_slots hothers hperm
      have htype := (hfound _ (.head _)).onlyMember_eq_some htag id
      have htells : (Payload.members (ms.filter (·.1 ≠ "type"))).Tells kind.payloadSlots := by
        refine .members fun slot hslot => (hfound slot (.tail _ hslot)).of_filter_ne fun hname => ?_
        exact (List.nodup_cons.1 kind.nodup_slots).1 (List.mem_map.2 ⟨slot, hslot, hname⟩)
      rw [ofValue_object, splitMembers_eq_ok ms none [] htype]
      exact ofPayload_eq_ok htells
  | array hitems =>
      obtain ⟨vs, rfl, htail⟩ := hitems.exists_cons
      rw [ofValue_array, tagOfValue_jsonName]
      exact ofPayload_eq_ok (.items htail)

end Kind

end SheetCheck
