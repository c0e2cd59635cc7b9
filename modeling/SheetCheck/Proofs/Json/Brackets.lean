import SheetCheck.Json.Reader.Bracket
import SheetCheck.Proofs.Json.Strings

/-!
# Reading arrays and objects

What is read item by item or member by member agrees with a fold over the items or members of the
value, as long as reading one of them agrees with one step of the fold (`agrees_foldItems`,
`agrees_foldMembers`).  The brackets around it add nothing to that (`Reads.bracketed`).
-/

namespace SheetCheck.Json

namespace Value

mutual

/-- A value has a token at least. -/
lemma length_lt_tokens : ∀ (v : Value) (ts : List Token), ts.length < (v.tokens ts).length
  | null, _ | boolean _, _ | number _, _ | string _, _ => Nat.lt_succ_self _
  | array vs, ts => by
      have h := length_le_itemTokens true vs (.mark .closeList :: ts)
      simp only [tokens, List.length_cons] at h ⊢
      omega
  | object ms, ts => by
      have h := length_le_memberTokens true ms (.mark .closeObject :: ts)
      simp only [tokens, List.length_cons] at h ⊢
      omega

lemma length_le_itemTokens (first : Bool) : ∀ (vs : List Value) (ts : List Token),
    ts.length + vs.length ≤ (itemTokens first vs ts).length
  | [], _ => Nat.le_refl _
  | v :: vs, ts => by
      have hitem := length_lt_tokens v (itemTokens false vs ts)
      have hitems := length_le_itemTokens false vs ts
      cases first <;> simp only [itemTokens, separated, List.length_cons, if_true,
        Bool.false_eq_true, if_false] <;> omega

lemma length_le_memberTokens (first : Bool) : ∀ (ms : List (String × Value)) (ts : List Token),
    ts.length + ms.length ≤ (memberTokens first ms ts).length
  | [], _ => Nat.le_refl _
  | (_, v) :: ms, ts => by
      have hmember := length_lt_tokens v (memberTokens false ms ts)
      have hmembers := length_le_memberTokens false ms ts
      cases first <;> simp only [memberTokens, separated, List.length_cons, if_true,
        Bool.false_eq_true, if_false] <;> omega

end

/-- The first token of a value. -/
def head : Value → Token
  | null => .null
  | boolean b => .boolean b
  | number x => .number x
  | string s => .string s
  | array _ => .mark .openList
  | object _ => .mark .openObject

lemma exists_tokens (v : Value) (ts : List Token) : ∃ ts', v.tokens ts = v.head :: ts' := by
  cases v <;> exact ⟨_, rfl⟩

/-- A value that is no array and no object has one token. -/
lemma tokens_of_depth {v : Value} (h : v.depth = 0) (ts : List Token) :
    v.tokens ts = v.head :: ts := by
  cases v with
  | array | object => simp [depth] at h
  | null | boolean | number | string => rfl

/-! The first character of a value tells what it is. -/

section Starts

variable {v : Value} {c : Char}

lemma starts_null (h : v.head.Starts 'n') : v = null := by
  cases v with
  | null => rfl
  | boolean b => cases b <;> simp [head, Token.Starts] at h
  | number | string | array | object => simp [head, Token.Starts, Mark.char] at h

lemma starts_string (h : v.head.Starts '"') : ∃ s, v = string s := by
  cases v with
  | string s => exact ⟨s, rfl⟩
  | boolean b => cases b <;> simp [head, Token.Starts] at h
  | null | number | array | object => simp [head, Token.Starts, Mark.char] at h

lemma starts_array (h : v.head.Starts '[') : ∃ vs, v = array vs := by
  cases v with
  | array vs => exact ⟨vs, rfl⟩
  | boolean b => cases b <;> simp [head, Token.Starts] at h
  | null | number | string | object => simp [head, Token.Starts, Mark.char] at h

lemma starts_object (h : v.head.Starts '\x7b') : ∃ ms, v = object ms := by
  cases v with
  | object ms => exact ⟨ms, rfl⟩
  | boolean b => cases b <;> simp [head, Token.Starts] at h
  | null | number | string | array => simp [head, Token.Starts, Mark.char] at h

lemma starts_number (h : v.head.Starts c) (hc : c = '-' ∨ c.isDigit) : ∃ x, v = number x := by
  cases v with
  | number x => exact ⟨x, rfl⟩
  | boolean b => cases b <;> rw [show c = _ from h] at hc <;> simp at hc
  | null | string | array | object => rw [show c = _ from h] at hc; simp [Mark.char] at hc

/-- A bracket does not open a scalar. -/
lemma ne_bracket_of_starts (hv : v.depth = 0) (h : v.head.Starts c) : c ≠ '[' ∧ c ≠ '\x7b' := by
  constructor
  · rintro rfl
    obtain ⟨vs, rfl⟩ := starts_array h
    simp [depth] at hv
  · rintro rfl
    obtain ⟨ms, rfl⟩ := starts_object h
    simp [depth] at hv

lemma ne_closeList_of_starts (h : v.head.Starts c) : c ≠ ']' := by
  rintro rfl
  cases v with
  | boolean b => cases b <;> simp [head, Token.Starts] at h
  | null | number | string | array | object => simp [head, Token.Starts, Mark.char] at h

end Starts

end Value

namespace Reader

open Input

variable {α σ : Type} {E : Cause → Prop} {ts : List Token}

/-- A reader that looks for a token in front of a value finds the first character of the value. -/
lemma Reads.peekToken_bind_value {β : Type} {S : β → Input → Prop} {f : Option Char → Reader β}
    {v : Value} (h : ∀ c, v.head.Starts c → Reads (Shows (v.tokens ts)) (f (some c)) S E) :
    Reads (Shows (v.tokens ts)) (peekToken >>= f) S E := by
  obtain ⟨ts', htokens⟩ := v.exists_tokens ts
  rw [htokens] at h ⊢
  exact Reads.peekToken_bind fun c hc => (h c hc).pre fun _ hi => hi.shows

/-! ### Between two items or members -/

/-- A comma is taken in front of all items but the first. -/
lemma takes_nextItem (first : Bool) (v : Value) :
    Takes (Shows (separated first (v.tokens ts))) (nextItem first) true (Shows (v.tokens ts)) := by
  cases first with
  | true =>
      refine Reads.peekToken_bind_value fun c hc => ?_
      have hclose : c = ']' → False := Value.ne_closeList_of_starts hc
      simp only [if_true]
      exact Reads.pure fun _ hi => ⟨rfl, hi⟩
  | false =>
      refine Reads.peekToken_bind fun c hc => ?_
      obtain rfl : c = ',' := hc
      simp only [Bool.false_eq_true, if_false]
      refine Reads.bind_takes (takes_advance_mark .comma _) ?_
      refine Reads.peekToken_bind_value fun c hc => ?_
      have hclose : c = ']' → False := Value.ne_closeList_of_starts hc
      simp only
      exact Reads.pure fun _ hi => ⟨rfl, hi⟩

lemma takes_nextItem_end (first : Bool) :
    Takes (Shows (.mark .closeList :: ts)) (nextItem first) false
      (Shows (.mark .closeList :: ts)) := by
  refine Reads.peekToken_bind fun c hc => ?_
  obtain rfl : c = ']' := hc
  exact Reads.pure fun _ hi => ⟨rfl, hi.shows⟩

lemma takes_key (key : String) (ts : List Token) :
    Takes (At (.string key) ts) (nextKey.key '"') (some key) (Shows ts) := by
  rw [nextKey.key, if_pos rfl]
  refine Reads.bind_takes (takes_advance_string key ts) (Reads.map ?_)
  exact (takes_string key ts).post fun s i hi => ⟨by rw [hi.1], hi.2⟩

lemma takes_nextKey (first : Bool) (key : String) :
    Takes (Shows (separated first (.string key :: ts))) (nextKey first) (some key) (Shows ts) := by
  cases first with
  | true =>
      refine Reads.peekToken_bind fun c hc => ?_
      obtain rfl : c = '"' := hc
      exact takes_key key ts
  | false =>
      refine Reads.peekToken_bind fun c hc => ?_
      obtain rfl : c = ',' := hc
      refine Reads.bind_takes (takes_advance_mark .comma _) (Reads.peekToken_bind fun c hc => ?_)
      obtain rfl : c = '"' := hc
      exact takes_key key ts

lemma takes_nextKey_end (first : Bool) :
    Takes (Shows (.mark .closeObject :: ts)) (nextKey first) none
      (Shows (.mark .closeObject :: ts)) := by
  refine Reads.peekToken_bind fun c hc => ?_
  obtain rfl : c = '\x7d' := hc
  exact Reads.pure fun _ hi => ⟨rfl, hi.shows⟩

lemma takes_colon : Takes (Shows (.mark .colon :: ts)) colon () (Shows ts) := by
  refine Reads.peekToken_bind fun c hc => ?_
  obtain rfl : c = ':' := hc
  exact takes_advance_mark .colon ts

/-! ### Closing brackets -/

lemma takes_closeList : Takes (Shows (.mark .closeList :: ts)) closeList () (Shows ts) := by
  refine Reads.peekToken_bind fun c hc => ?_
  obtain rfl : c = ']' := hc
  exact takes_advance_mark .closeList ts

/-- A further item is not taken for the end of an array. -/
lemma stops_closeList (v : Value) : Stops (Shows (.mark .comma :: v.tokens ts)) closeList
    fun _ => True := by
  refine Reads.peekToken_bind fun c hc => ?_
  obtain rfl : c = ',' := hc
  refine Reads.bind_takes (takes_advance_mark .comma _) (Reads.peekToken_bind_value fun c hc => ?_)
  have hclose : some c = some ']' → False :=
    fun h => Value.ne_closeList_of_starts hc (Option.some.inj h)
  simp only
  exact Reads.stopAhead trivial

lemma takes_closeObject : Takes (Shows (.mark .closeObject :: ts)) closeObject () (Shows ts) := by
  refine Reads.peekToken_bind fun c hc => ?_
  obtain rfl : c = '\x7d' := hc
  exact takes_advance_mark .closeObject ts

/-- Around what is read between brackets, the brackets are taken. -/
lemma Reads.bracketed {close : Reader Unit} {body : Reader α} {Q : α → Input → Prop}
    {S : α → Input → Prop} (m : Mark) (hbody : Reads (Shows ts) body Q E)
    (hclose : ∀ a, Reads (Q a) close (fun _ => S a) E) :
    Reads (At (.mark m) ts) (Reader.bracketed close body) S E := by
  refine Reads.bind_takes (takes_advance_mark m ts) fun i hi => ?_
  have hread := hbody i hi
  cases hi' : body i with
  | ok a j =>
      simp only [hi'] at hread ⊢
      have hend := hclose a j hread
      cases hj : close j with
      | ok u k => simpa only [hj] using hend
      | error f k => simpa only [hj] using hend
  | error f j =>
      -- the closing bracket is looked for, but the cause stays
      simp only [hi'] at hread ⊢
      cases close j <;> exact hread

section Agrees

variable {C : Cause → Cause → Prop} {close : Reader Unit} {body : Reader α} {x : Except Cause α}
  {R R' : Input → Prop}

/-- Where the content may be followed by more than a closing bracket, `y` tells whether it is. -/
lemma Agrees.bracketed_bind {y : Except Cause Unit} (m : Mark)
    (hbody : Agrees C (Shows ts) body x R) (hclose : Agrees C R close y R') :
    Agrees C (At (.mark m) ts) (Reader.bracketed close body) (x >>= fun a => (fun _ => a) <$> y)
      R' := by
  refine Reads.bracketed m (hbody.mono (fun _ hi => hi) (fun _ _ hq => hq) ?_) fun a => ?_
  · rintro c ⟨c', rfl, hc⟩
    exact ⟨c', rfl, hc⟩
  · refine Reads.and_pre ?_
    rintro rfl
    refine hclose.mono (fun _ hi => hi) ?_ ?_
    · rintro u i ⟨rfl, hi⟩
      exact ⟨rfl, hi⟩
    · rintro c ⟨c', rfl, hc⟩
      exact ⟨c', rfl, hc⟩

lemma Agrees.bracketed (m : Mark) (hbody : Agrees C (Shows ts) body x R)
    (hclose : Takes R close () R') :
    Agrees C (At (.mark m) ts) (Reader.bracketed close body) x R' := by
  have h := Agrees.bracketed_bind m hbody (.of_takes hclose)
  cases x with
  | ok a => exact h
  | error c => exact h

end Agrees

/-! ### Folds -/

section Fold

variable {ι : Type} {C : Cause → Cause → Prop} {xs : List ι} {step : σ → ι → Except Cause σ}
  {next : Bool × σ → Reader (Option (Bool × σ))} {T : Bool → List ι → Input → Prop}
  {R : Input → Prop}

/-- A loop that takes one of several things with every step agrees with the fold over them. -/
lemma agrees_fold (hsize : ∀ first ys i, T first ys i → ys.length ≤ i.left)
    (hnil : ∀ first s, Takes (T first []) (next (first, s)) none R)
    (hcons : ∀ first s, ∀ y ∈ xs, ∀ ys, Agrees C (T first (y :: ys)) (next (first, s))
      ((fun s' => some (false, s')) <$> step s y) (T false ys))
    (first : Bool) (s : σ) :
    Agrees C (T first xs) (do let (_, s) ← repeatStep next (first, s); pure s)
      (xs.foldlM step s) R := by
  -- the things that are still to come lead from the state to the result
  let I (ys : List ι) (q : Bool × σ) (i : Input) : Prop :=
    (xs.foldlM step s = ys.foldlM step q.2 ∧ ∀ y ∈ ys, y ∈ xs) ∧ T q.1 ys i
  have hlength : ∀ ys q i, I ys q i → ys.length ≤ i.left := fun ys q i hi => hsize q.1 ys i hi.2
  refine Reads.bind (Q := fun q j => xs.foldlM step s = .ok q.2 ∧ R j)
    ?_ fun q => Reads.pure fun _ hi => hi
  refine (Reads.repeatStep I List.length hlength ?_ xs (first, s)).pre
    fun i hi => ⟨⟨rfl, fun _ hy => hy⟩, hi⟩
  rintro ys ⟨first, s'⟩
  refine Reads.and_pre fun ⟨hfold, hmem⟩ => ?_
  cases ys with
  | nil =>
      refine (hnil first s').mono (fun _ hi => hi) (fun o j hq => ?_) fun _ hc => hc.elim
      rw [hq.1, hfold]
      exact ⟨rfl, hq.2⟩
  | cons y ys =>
      rw [List.foldlM_cons] at hfold
      refine (hcons first s' y (hmem y List.mem_cons_self) ys).mono (fun _ hi => hi) ?_ ?_
      · rintro o j ⟨ho, hj⟩
        cases hy : step s' y with
        | error c => simp [hy] at ho
        | ok s'' =>
            obtain rfl : some (false, s'') = o := by simpa [hy] using ho
            have hrest : ∀ z ∈ ys, z ∈ xs := fun z hz => hmem z (List.mem_cons_of_mem y hz)
            refine ⟨ys, Nat.lt_succ_self _, ⟨?_, hrest⟩, hj⟩
            rw [hfold, hy]
            rfl
      · rintro c ⟨c', hc', hC⟩
        cases hy : step s' y with
        | error c'' =>
            obtain rfl : c'' = c' := by simpa [hy] using hc'
            exact ⟨c'', by rw [hfold, hy]; rfl, hC⟩
        | ok s'' => simp [hy] at hc'

end Fold

variable {C : Cause → Cause → Prop} {vs : List Value} {ms : List (String × Value)}

/-- Items are read one after the other. -/
lemma agrees_foldItems {item : σ → Reader σ} {step : σ → Value → Except Cause σ}
    (hitem : ∀ s, ∀ v ∈ vs, ∀ ts, Followed ts →
      Agrees C (Shows (v.tokens ts)) (item s) (step s v) (Shows ts))
    (first : Bool) (s : σ) (ts : List Token) :
    Agrees C (Shows (Value.itemTokens first vs (.mark .closeList :: ts))) (foldItems item first s)
      (vs.foldlM step s) (Shows (.mark .closeList :: ts)) := by
  refine agrees_fold
    (T := fun first us => Shows (Value.itemTokens first us (.mark .closeList :: ts)))
    ?_ ?_ ?_ first s
  · intro first us i hi
    have htokens := Value.length_le_itemTokens first us (.mark .closeList :: ts)
    exact Nat.le_trans (Nat.le_trans (Nat.le_add_left _ _) htokens) hi.length_le
  · intro first s
    exact Reads.bind_takes (takes_nextItem_end first) (Reads.pure fun i hi => ⟨rfl, hi⟩)
  · intro first s v hv us
    refine Agrees.bind_takes (takes_nextItem first v) ?_
    rw [map_eq_pure_bind]
    refine Agrees.bind (hitem s v hv _ (followed_itemTokens us (followed_mark .closeList ts))) ?_
    exact fun s' _ => Agrees.pure fun _ hi => hi

/-- Members are read one after the other. -/
lemma agrees_foldMembers {member : σ → String → Reader σ}
    {step : σ → String × Value → Except Cause σ}
    (hmember : ∀ s, ∀ m ∈ ms, ∀ ts, Followed ts →
      Agrees C (Shows (.mark .colon :: m.2.tokens ts)) (member s m.1) (step s m) (Shows ts))
    (s : σ) (ts : List Token) :
    Agrees C (Shows (Value.memberTokens true ms (.mark .closeObject :: ts))) (foldMembers member s)
      (ms.foldlM step s) (Shows (.mark .closeObject :: ts)) := by
  refine agrees_fold
    (T := fun first us => Shows (Value.memberTokens first us (.mark .closeObject :: ts)))
    ?_ ?_ ?_ true s
  · intro first us i hi
    have htokens := Value.length_le_memberTokens first us (.mark .closeObject :: ts)
    exact Nat.le_trans (Nat.le_trans (Nat.le_add_left _ _) htokens) hi.length_le
  · intro first s
    exact Reads.bind_takes (takes_nextKey_end first) (Reads.pure fun i hi => ⟨rfl, hi⟩)
  · intro first s m hm us
    refine Agrees.bind_takes (takes_nextKey first m.1) ?_
    rw [map_eq_pure_bind]
    have hfollowed := followed_memberTokens us (followed_mark .closeObject ts)
    refine Agrees.bind (hmember s m hm _ hfollowed) ?_
    exact fun s' _ => Agrees.pure fun _ hi => hi

/-- The items of an array are read in their order. -/
lemma agrees_items {item : Reader α} {f : Value → Except Cause α}
    (hitem : ∀ v ∈ vs, ∀ ts, Followed ts →
      Agrees C (Shows (v.tokens ts)) item (f v) (Shows ts))
    (first : Bool) (ts : List Token) :
    Agrees C (Shows (Value.itemTokens first vs (.mark .closeList :: ts))) (items item first)
      (vs.mapM f) (Shows (.mark .closeList :: ts)) := by
  rw [List.mapM_eq_reverse_foldlM_cons, map_eq_pure_bind]
  refine Agrees.bind (agrees_foldItems ?_ first [] ts) fun as _ => Agrees.pure fun _ hi => hi
  intro as v hv ts' hts'
  exact Agrees.bind (hitem v hv ts' hts') fun a _ => Agrees.pure fun _ hi => hi

end Reader

end SheetCheck.Json
