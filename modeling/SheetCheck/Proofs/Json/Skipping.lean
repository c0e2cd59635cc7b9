import SheetCheck.Json.Reader.Skip
import SheetCheck.Proofs.Json.Values

/-!
# Skipping values

A value nobody wants is taken by a loop that keeps the brackets that are open.  `Pending` says what
the open brackets still demand of the input, and the loop keeps it.  So a value is taken to its end
however deeply it is nested (`takes_skipValue`).
-/

namespace SheetCheck.Json.Reader

open Input

/-- In a state of the loop the tokens `ts` are shown, and when all open brackets are closed, `rest`
are left. -/
inductive Pending (rest : List Token) : List Opened × Bool → List Token → Prop
  | done {ended : Bool} : Pending rest ([], ended) rest
  | list {outer : List Opened} {ended : Bool} {vs : List Value} {ts : List Token} :
      Pending rest (outer, true) ts →
      Pending rest (.list :: outer, ended) (Value.itemTokens (!ended) vs (.mark .closeList :: ts))
  | object {outer : List Opened} {ended : Bool} {ms : List (String × Value)} {ts : List Token} :
      Pending rest (outer, true) ts →
      Pending rest (.object :: outer, ended)
        (Value.memberTokens (!ended) ms (.mark .closeObject :: ts))

variable {rest ts : List Token} {opened outer : List Opened} {ended : Bool}

lemma Pending.followed (h : Pending rest (opened, true) ts) (hrest : Followed rest) :
    Followed ts := by
  cases h with
  | done => exact hrest
  | list => exact followed_itemTokens _ (followed_mark _ _)
  | object => exact followed_memberTokens _ (followed_mark _ _)

/-- After a step fewer tokens than `n` are shown. -/
def Advanced (rest : List Token) (n : ℕ) (q : List Opened × Bool) (i : Input) : Prop :=
  ∃ ts, ts.length < n ∧ Pending rest q ts ∧ Shows ts i

/-! ### The steps of the loop -/

variable {C : Cause → Prop} {n : ℕ}

/-- The start of a value is taken: a scalar as a whole, and of all else the opening bracket. -/
lemma reads_skipHead (v : Value) (h : Pending rest (opened, true) ts) (hrest : Followed rest)
    (hn : (v.tokens ts).length ≤ n) :
    Reads (Shows (v.tokens ts)) (skipHead opened) (Advanced rest n) C := by
  have hts := h.followed hrest
  by_cases hv : v.depth = 0
  · rw [Value.tokens_of_depth hv] at hn ⊢
    have hdone : ∀ i, Shows ts i → Advanced rest n (opened, true) i := fun i hi => ⟨ts, hn, h, hi⟩
    refine Reads.peekToken_bind fun c hc => ?_
    obtain ⟨hlist, hobject⟩ := Value.ne_bracket_of_starts hv hc
    simp only [hlist, hobject, if_false]
    cases v with
    | null =>
        obtain rfl : c = 'n' := hc
        exact Reads.bind_takes takes_null (Reads.pure hdone)
    | boolean b =>
        cases b with
        | true =>
            obtain rfl : c = 't' := hc
            exact Reads.bind_takes (takes_boolean true) (Reads.pure hdone)
        | false =>
            obtain rfl : c = 'f' := hc
            exact Reads.bind_takes (takes_boolean false) (Reads.pure hdone)
    | string s =>
        obtain rfl : c = '"' := hc
        refine Reads.bind_takes (takes_advance_string s ts) ?_
        exact Reads.bind_takes (takes_skipString s ts) (Reads.pure hdone)
    | number x =>
        have hquote : c ≠ '"' := by
          rintro rfl
          simpa using Value.starts_string hc
        have hnumber : c = '-' ∨ c.isDigit := hc
        simp only [hquote, hnumber, if_false, if_true]
        exact Reads.bind_takes (takes_skipNumber hts) (Reads.pure hdone)
    | array | object => simp [Value.depth] at hv
  · cases v with
    | array vs =>
        refine Reads.peekToken_bind fun c hc => ?_
        obtain rfl : c = '[' := hc
        refine Reads.bind_takes (takes_advance_mark .openList _) (Reads.pure fun i hi => ?_)
        exact ⟨_, hn, .list h, hi⟩
    | object ms =>
        refine Reads.peekToken_bind fun c hc => ?_
        obtain rfl : c = '\x7b' := hc
        refine Reads.bind_takes (takes_advance_mark .openObject _) (Reads.pure fun i hi => ?_)
        exact ⟨_, hn, .object h, hi⟩
    | null | boolean | number | string => exact (hv rfl).elim

lemma takes_skipKey (key : String) :
    Takes (Shows (.string key :: .mark .colon :: ts)) skipKey () (Shows ts) := by
  refine Reads.peekToken_bind fun c hc => ?_
  obtain rfl : c = '"' := hc
  refine Reads.bind_takes (takes_advance_string key _) ?_
  exact Reads.bind_takes (takes_skipString key _) takes_colon

/-- An item that stands within a list. -/
lemma reads_skipEntry_list (v : Value) (vs : List Value) (h : Pending rest (outer, true) ts)
    (hrest : Followed rest)
    (hn : (v.tokens (Value.itemTokens false vs (.mark .closeList :: ts))).length ≤ n) :
    Reads (Shows (v.tokens (Value.itemTokens false vs (.mark .closeList :: ts))))
      (skipEntry .list outer) (Advanced rest n) C := by
  rw [skipEntry]
  exact reads_skipHead v (.list h) hrest hn

/-- A member that stands within an object. -/
lemma reads_skipEntry_object (key : String) (v : Value) (ms : List (String × Value))
    (h : Pending rest (outer, true) ts) (hrest : Followed rest)
    (hn : (v.tokens (Value.memberTokens false ms (.mark .closeObject :: ts))).length ≤ n) :
    Reads (Shows (.string key :: .mark .colon ::
      v.tokens (Value.memberTokens false ms (.mark .closeObject :: ts))))
      (skipEntry .object outer) (Advanced rest n) C := by
  rw [skipEntry]
  exact Reads.bind_takes (takes_skipKey key) (reads_skipHead v (.object h) hrest hn)

/-- The loop ends when no bracket is open, and until then every step takes a token. -/
lemma reads_skipStep (q : List Opened × Bool) (ts : List Token) (h : Pending rest q ts)
    (hrest : Followed rest) :
    Reads (Shows ts) (skipStep q) (fun o i => match o with
      | none => Shows rest i
      | some q' => Advanced rest ts.length q' i) C := by
  cases h with
  | done => exact Reads.pure fun _ hi => hi
  | @list outer ended vs ts h =>
      cases vs with
      | nil =>
          refine Reads.peekToken_bind fun c hc => ?_
          obtain rfl : c = ']' := hc
          refine Reads.bind_takes (takes_advance_mark .closeList ts) (Reads.pure fun i hi => ?_)
          exact ⟨ts, Nat.lt_succ_self _, h, hi⟩
      | cons v vs =>
          cases ended with
          | false =>
              simp only [Value.itemTokens, Bool.not_false, separated_true]
              refine Reads.peekToken_bind_value fun c hc => ?_
              have hclose : c ≠ Opened.list.closing := Value.ne_closeList_of_starts hc
              simp only [hclose, if_false, Bool.not_false, if_true]
              exact Reads.map (reads_skipEntry_list v vs h hrest (Nat.le_refl _))
          | true =>
              refine Reads.peekToken_bind fun c hc => ?_
              obtain rfl : c = ',' := hc
              refine Reads.bind_takes (takes_advance_mark .comma _) (Reads.map ?_)
              exact reads_skipEntry_list v vs h hrest (Nat.le_succ _)
  | @object outer ended ms ts h =>
      cases ms with
      | nil =>
          refine Reads.peekToken_bind fun c hc => ?_
          obtain rfl : c = '\x7d' := hc
          refine Reads.bind_takes (takes_advance_mark .closeObject ts) (Reads.pure fun i hi => ?_)
          exact ⟨ts, Nat.lt_succ_self _, h, hi⟩
      | cons m ms =>
          obtain ⟨key, v⟩ := m
          cases ended with
          | false =>
              refine Reads.peekToken_bind fun c hc => ?_
              obtain rfl : c = '"' := hc
              have hentry := @reads_skipEntry_object rest ts outer C _ key v ms h hrest
                (Nat.le_succ_of_le (Nat.le_succ _))
              exact Reads.map (hentry.pre fun _ hi => hi.shows)
          | true =>
              refine Reads.peekToken_bind fun c hc => ?_
              obtain rfl : c = ',' := hc
              refine Reads.bind_takes (takes_advance_mark .comma _) (Reads.map ?_)
              exact reads_skipEntry_object key v ms h hrest
                (Nat.le_succ_of_le (Nat.le_succ_of_le (Nat.le_succ _)))

/-- A value is taken to its end. -/
lemma takes_skipValue (v : Value) (hrest : Followed rest) :
    Takes (Shows (v.tokens rest)) skipValue () (Shows rest) := by
  let I (ts : List Token) (q : List Opened × Bool) (i : Input) : Prop :=
    Pending rest q ts ∧ Shows ts i
  have hdone : Pending rest ([], true) rest := .done
  refine Reads.bind (reads_skipHead v hdone hrest (Nat.le_refl _)) fun q => ?_
  refine Reads.exists_pre fun ts => Reads.and_pre fun _ => ?_
  refine Reads.bind (Q := fun _ => Shows rest)
    (Reads.repeatStep I List.length (fun _ _ _ hi => hi.2.length_le) (fun ts q => ?_) ts q) ?_
  · refine Reads.and_pre fun hpending => (reads_skipStep q ts hpending hrest).post fun o i hi => ?_
    cases o with
    | none => exact hi
    | some q' => exact hi
  · exact fun _ => Reads.pure fun _ hi => ⟨rfl, hi⟩

end SheetCheck.Json.Reader
