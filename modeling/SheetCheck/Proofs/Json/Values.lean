import SheetCheck.Json.Reader.Value
import SheetCheck.Proofs.Json.Brackets
import SheetCheck.Proofs.Json.Numbers

/-!
# Reading values

A value is read from every text of it in which no more brackets are open at once than are allowed
(`takes_value`).
-/

namespace SheetCheck.Json

namespace Reader

open Input

variable {t : Token} {v : Value} {c : Char} {ts : List Token}

/-! ### Scalars -/

lemma word_ofList (cs text : List Char) :
    word cs (ofList (cs ++ text)) = .ok () (ofList text) := by
  induction cs with
  | nil => rfl
  | cons c cs ih =>
      rw [List.cons_append, word, bind_ok (peek_ofList_cons c _)]
      simp only [if_true]
      exact (bind_ok (advance_ofList_cons c _) _).trans ih

/-- A token that is written in one way is taken as a word. -/
lemma takes_word {cs : List Char} (h : ∀ text, t.Written text → text = cs) :
    Takes (At t ts) (word cs) () (Shows ts) := by
  rintro _ ⟨_, text, hwritten, htext, rfl⟩
  rw [h _ hwritten, word_ofList]
  exact ⟨rfl, text, htext, rfl⟩

lemma takes_null : Takes (At .null ts) (literal 'n') .null (Shows ts) := by
  refine Reads.bind_takes (takes_word fun text h => ?_) (Reads.pure fun _ hi => ⟨rfl, hi⟩)
  cases h
  rfl

lemma takes_boolean (b : Bool) :
    Takes (At (.boolean b) ts) (literal (if b then 't' else 'f')) (.boolean b) (Shows ts) := by
  cases b with
  | true =>
      refine Reads.bind_takes (takes_word fun text h => ?_) (Reads.pure fun _ hi => ⟨rfl, hi⟩)
      cases h
      rfl
  | false =>
      refine Reads.bind_takes (takes_word fun text h => ?_) (Reads.pure fun _ hi => ⟨rfl, hi⟩)
      cases h
      rfl

/-- A scalar is read. -/
lemma takes_scalar (hv : v.depth = 0) (hc : v.head.Starts c) (hts : Followed ts) :
    Takes (At v.head ts) (scalar c) v (Shows ts) := by
  cases v with
  | null =>
      obtain rfl : c = 'n' := hc
      exact takes_null
  | boolean b =>
      cases b with
      | true =>
          obtain rfl : c = 't' := hc
          exact takes_boolean true
      | false =>
          obtain rfl : c = 'f' := hc
          exact takes_boolean false
  | string s =>
      obtain rfl : c = '"' := hc
      refine Reads.bind_takes (takes_advance_string s ts) (Reads.map ?_)
      exact (takes_string s ts).post fun s' i hi => ⟨by rw [hi.1], hi.2⟩
  | number x =>
      have hquote : c ≠ '"' := by
        rintro rfl
        simpa using Value.starts_string hc
      have hnumber : c = '-' ∨ c.isDigit := hc
      rw [scalar, if_neg hquote, if_pos hnumber]
      exact Reads.map ((takes_number hts).post fun x' i hi => ⟨by rw [hi.1], hi.2⟩)
  | array vs => simp [Value.depth] at hv
  | object ms => simp [Value.depth] at hv

/-! ### Values -/

lemma takes_valueWith_scalar (inner : Option (Reader Value)) (hv : v.depth = 0)
    (hts : Followed ts) : Takes (Shows (v.tokens ts)) (valueWith inner) v (Shows ts) := by
  rw [Value.tokens_of_depth hv]
  refine Reads.peekToken_bind fun c hc => ?_
  obtain ⟨hlist, hobject⟩ := Value.ne_bracket_of_starts hv hc
  simp only [hlist, hobject, if_false]
  exact takes_scalar hv hc hts

variable {vs : List Value} {ms : List (String × Value)} {read : Reader Value}

lemma takes_items (first : Bool)
    (h : ∀ v ∈ vs, ∀ ts, Followed ts → Takes (Shows (v.tokens ts)) read v (Shows ts)) :
    Takes (Shows (Value.itemTokens first vs (.mark .closeList :: ts))) (items read first) vs
      (Shows (.mark .closeList :: ts)) := by
  have hitems : Agrees (fun _ _ => True)
      (Shows (Value.itemTokens first vs (.mark .closeList :: ts))) (items read first)
      (vs.mapM pure) (Shows (.mark .closeList :: ts)) :=
    agrees_items (fun v hv ts' hts' => .of_takes (h v hv ts' hts')) first ts
  rw [List.mapM_pure, List.map_id_fun'] at hitems
  exact hitems.takes

lemma takes_members
    (h : ∀ m ∈ ms, ∀ ts, Followed ts → Takes (Shows (m.2.tokens ts)) read m.2 (Shows ts)) :
    Takes (Shows (Value.memberTokens true ms (.mark .closeObject :: ts))) (members read) ms
      (Shows (.mark .closeObject :: ts)) := by
  have hmember : ∀ s, ∀ m ∈ ms, ∀ ts', Followed ts' →
      Agrees (fun _ _ => True) (Shows (.mark .colon :: m.2.tokens ts'))
        (do colon; return (m.1, ← read) :: s) (pure (m :: s)) (Shows ts') := by
    intro s m hm ts' hts'
    refine Agrees.bind_takes takes_colon (Agrees.bind_takes (h m hm ts' hts') ?_)
    exact Agrees.pure fun _ hi => hi
  have hfold : Agrees (fun _ _ => True)
      (Shows (Value.memberTokens true ms (.mark .closeObject :: ts)))
      (foldMembers (fun s key => do colon; return (key, ← read) :: s) [])
      (ms.foldlM (fun s m => pure (m :: s)) []) (Shows (.mark .closeObject :: ts)) :=
    agrees_foldMembers hmember [] ts
  rw [List.foldlM_pure] at hfold
  refine Reads.bind_takes hfold.takes (Reads.pure fun i hi => ⟨?_, hi⟩)
  simp

/-- A value is read, if enough brackets may be open at once. -/
lemma takes_value (levels : ℕ) (h : v.depth ≤ levels) (hts : Followed ts) :
    Takes (Shows (v.tokens ts)) (value levels) v (Shows ts) := by
  induction levels generalizing v ts with
  | zero => exact takes_valueWith_scalar none (Nat.eq_zero_of_le_zero h) hts
  | succ levels ih =>
      cases v with
      | array vs =>
          obtain ⟨_, ⟨⟩, hitems⟩ := Value.depth_array_le_iff.1 h
          refine Reads.peekToken_bind fun c hc => ?_
          obtain rfl : c = '[' := hc
          refine Reads.map (Reads.bracketed .openList (takes_items true fun u hu ts' hts' => ?_) ?_)
          · exact ih (hitems u hu) hts'
          · exact fun us => Reads.and_pre fun hus =>
              takes_closeList.post fun _ i hi => ⟨by rw [hus], hi.2⟩
      | object ms =>
          obtain ⟨_, ⟨⟩, hmembers⟩ := Value.depth_object_le_iff.1 h
          refine Reads.peekToken_bind fun c hc => ?_
          obtain rfl : c = '\x7b' := hc
          refine Reads.map (Reads.bracketed .openObject (takes_members fun m hm ts' hts' => ?_) ?_)
          · exact ih (hmembers m hm) hts'
          · exact fun us => Reads.and_pre fun hus =>
              takes_closeObject.post fun _ i hi => ⟨by rw [hus], hi.2⟩
      | null | boolean | number | string => exact takes_valueWith_scalar _ rfl hts

end Reader

end SheetCheck.Json
