import SheetCheck.Proofs.Json.Tokens

/-!
# Reading and skipping strings

A string is read character by character, however each of them is written
(`takes_string`).  A string nobody wants is taken piece by piece instead: of a character that is
written as two UTF-16 units each unit is a piece (`takes_skipString`).
-/

namespace SheetCheck.Json

namespace Input

/-- The inputs that go on with some characters of a string and its closing quote, behind which
tokens follow. -/
def InString (cs : List Char) (ts : List Token) (i : Input) : Prop :=
  ∃ text rest, WrittenChars cs text ∧ Laid ts rest ∧ i = ofList (text ++ '"' :: rest)

/-- Every character takes a byte. -/
lemma InString.length_le {cs : List Char} {ts : List Token} {i : Input} (h : InString cs ts i) :
    cs.length ≤ i.left := by
  obtain ⟨text, rest, hchars, -, rfl⟩ := h
  have hlength : cs.length ≤ text.length := by
    induction hchars with
    | nil => exact Nat.le_refl 0
    | cons hchar _ ih =>
        have hword := hchar.length_pos
        simp only [List.length_cons, List.length_append]
        omega
  have hbytes := Text.length_le_byteLength text
  simp only [left_ofList, Text.byteLength_append]
  omega

end Input

namespace Reader

open Input

variable {a b c d : Char} {n : ℕ} {text : List Char}

lemma peek_ofList_cons (c : Char) (text : List Char) :
    peek (ofList (c :: text)) = .ok (some c) (ofList (c :: text)) :=
  rfl

/-! ### One character -/

lemma utf8Size_of_hexDigit? (h : (hexDigit? c).isSome) : c.utf8Size = 1 := by
  rw [Char.utf8Size_eq_one_iff]
  unfold hexDigit? at h
  split at h
  · next hdigit =>
      simp only [Char.isDigit, Bool.and_eq_true, decide_eq_true_eq] at hdigit
      exact UInt32.le_trans hdigit.2 (by decide)
  · split at h
    · next hlower => exact UInt32.le_trans (Char.le_def.1 hlower.2) (by decide)
    · split at h
      · next hupper => exact UInt32.le_trans (Char.le_def.1 hupper.2) (by decide)
      · simp at h

lemma utf8Size_of_hexNumber? (h : hexNumber? [a, b, c, d] = some n) :
    ∀ e ∈ [a, b, c, d], e.utf8Size = 1 := by
  -- a number is read only if each of its digits is
  have hdigits : ∀ (ds : List Char) (m : ℕ),
      (ds.foldlM (fun n c => (hexDigit? c).map (16 * n + ·)) m).isSome →
        ∀ e ∈ ds, (hexDigit? e).isSome := by
    intro ds
    induction ds with
    | nil => simp
    | cons e ds ih =>
        intro m hm
        rw [List.foldlM_cons] at hm
        cases he : hexDigit? e with
        | none => simp [he] at hm
        | some k =>
            rw [List.forall_mem_cons]
            exact ⟨by rw [he]; rfl, ih (16 * m + k) (by simpa [he] using hm)⟩
  exact fun e he => utf8Size_of_hexDigit? (hdigits _ 0 (Option.isSome_of_mem h) e he)

lemma hexUnit_ofList (h : hexNumber? [a, b, c, d] = some n) :
    hexUnit (ofList (a :: b :: c :: d :: text)) = .ok n (ofList text) := by
  have hsize := utf8Size_of_hexNumber? h
  simp only [List.forall_mem_cons] at hsize
  obtain ⟨ha, hb, hc, hd, -⟩ := hsize
  have hleft : Text.byteLength (a :: b :: c :: d :: text) - 4 = Text.byteLength text := by
    simp only [Text.byteLength_cons, ha, hb, hc, hd]
    omega
  simp only [hexUnit, ofList, h, hleft]

variable {unit : ℕ → Reader Char} {control : Reader (Option Char)}

lemma stringChar_quote :
    stringChar unit control (ofList ('"' :: text)) = .ok none (ofList text) := by
  rw [stringChar, bind_ok (peek_ofList_cons _ _)]
  exact bind_ok (advance_ofList_cons _ _) _

lemma stringChar_plain (hquote : c ≠ '"') (hback : c ≠ '\\') (hc : 0x20 ≤ c.toNat) :
    stringChar unit control (ofList (c :: text)) = .ok (some c) (ofList text) := by
  rw [stringChar, bind_ok (peek_ofList_cons _ _)]
  have hcontrol : ¬ c.toNat < 0x20 := Nat.not_lt.2 hc
  simp only [hcontrol, if_false]
  exact bind_ok (advance_ofList_cons _ _) _

lemma stringChar_short {letter : Char} (h : shortEscape? letter = some c) :
    stringChar unit control (ofList ('\\' :: letter :: text)) = .ok (some c) (ofList text) := by
  have hu : letter ≠ 'u' := by
    rintro rfl
    simp [shortEscape?] at h
  have hescape : escape unit (ofList (letter :: text)) = .ok c (ofList text) := by
    rw [escape, bind_ok (peek_ofList_cons _ _)]
    simp only [h]
    exact bind_ok (advance_ofList_cons _ _) _
  rw [stringChar, bind_ok (peek_ofList_cons _ _)]
  refine (bind_ok (advance_ofList_cons _ _) _).trans ?_
  rw [map_eq_pure_bind, bind_ok hescape]
  rfl

lemma stringChar_unit (h : hexNumber? [a, b, c, d] = some n) {e : Char} {rest : List Char}
    (hunit : unit n (ofList text) = .ok e (ofList rest)) :
    stringChar unit control (ofList ('\\' :: 'u' :: a :: b :: c :: d :: text)) =
      .ok (some e) (ofList rest) := by
  have hescape : escape unit (ofList ('u' :: a :: b :: c :: d :: text)) = .ok e (ofList rest) := by
    rw [escape, bind_ok (peek_ofList_cons _ _)]
    refine (bind_ok (advance_ofList_cons _ _) _).trans ?_
    rw [bind_ok (hexUnit_ofList h), hunit]
  rw [stringChar, bind_ok (peek_ofList_cons _ _)]
  refine (bind_ok (advance_ofList_cons _ _) _).trans ?_
  rw [map_eq_pure_bind, bind_ok hescape]
  rfl

lemma surrogatePair_of_single (h : n < 0xD800 ∨ 0xDFFF < n) (i : Input) :
    surrogatePair n i = .ok (Char.ofNat n) i := by
  have hlow : ¬ (0xDC00 ≤ n ∧ n ≤ 0xDFFF) := by omega
  have hhigh : n < 0xD800 ∨ 0xDBFF < n := by omega
  rw [surrogatePair, if_neg hlow, if_pos hhigh]
  rfl

lemma unitStart_ofList_cons (c : Char) (text : List Char) :
    unitStart c (ofList (c :: text)) = .ok () (ofList text) := by
  rw [unitStart, bind_ok (peek_ofList_cons _ _)]
  simp only [if_true]
  exact advance_ofList_cons c text

lemma surrogatePair_of_pair {high low : ℕ} (hhigh : 0xD800 ≤ high) (hhigh' : high ≤ 0xDBFF)
    (h : hexNumber? [a, b, c, d] = some low) (hlow : 0xDC00 ≤ low) (hlow' : low ≤ 0xDFFF) :
    surrogatePair high (ofList ('\\' :: 'u' :: a :: b :: c :: d :: text)) =
      .ok (Char.ofNat (0x10000 + (high - 0xD800) * 0x400 + (low - 0xDC00))) (ofList text) := by
  have hfirst : ¬ (0xDC00 ≤ high ∧ high ≤ 0xDFFF) := by omega
  have hsurrogate : ¬ (high < 0xD800 ∨ 0xDBFF < high) := by omega
  have hsecond : ¬ (low < 0xDC00 ∨ 0xDFFF < low) := by omega
  rw [surrogatePair, if_neg hfirst, if_neg hsurrogate, bind_ok (unitStart_ofList_cons _ _),
    bind_ok (unitStart_ofList_cons _ _), bind_ok (hexUnit_ofList h), if_neg hsecond]
  rfl

/-- However a character is written, it is read. -/
lemma stringChar_of_writtenChar {word : List Char} (h : WrittenChar c word) :
    stringChar surrogatePair control (ofList (word ++ text)) = .ok (some c) (ofList text) := by
  cases h with
  | plain hquote hback hc => exact stringChar_plain hquote hback hc
  | short hletter => exact stringChar_short hletter
  | unit hnumber hsingle => exact stringChar_unit hnumber (surrogatePair_of_single hsingle _)
  | pair hnumber hhigh hhigh' hnumber' hlow hlow' =>
      exact stringChar_unit hnumber (surrogatePair_of_pair hhigh hhigh' hnumber' hlow hlow')

/-! ### A whole string -/

variable {cs : List Char} {ts : List Token}

lemma takes_advance_string (s : String) (ts : List Token) :
    Takes (At (.string s) ts) advance () (InString s.toList ts) := by
  rintro _ ⟨word, rest, hword, hrest, rfl⟩
  cases hword with
  | string hchars =>
      rename_i text
      rw [List.cons_append, advance_ofList_cons, List.append_assoc]
      exact ⟨rfl, text, rest, hchars, hrest, rfl⟩

lemma takes_stringChar_nil :
    Takes (InString [] ts) (stringChar unit control) none (Shows ts) := by
  rintro _ ⟨text, rest, hchars, hrest, rfl⟩
  cases hchars
  rw [List.nil_append, stringChar_quote]
  exact ⟨rfl, rest, hrest, rfl⟩

lemma takes_stringChar_cons :
    Takes (InString (c :: cs) ts) (stringChar surrogatePair control) (some c) (InString cs ts) := by
  rintro _ ⟨text, rest, hchars, hrest, rfl⟩
  cases hchars with
  | cons hchar hchars =>
      rw [List.append_assoc, stringChar_of_writtenChar hchar]
      exact ⟨rfl, _, rest, hchars, hrest, rfl⟩

/-- A string is read, and what follows it is left. -/
lemma takes_string (s : String) (ts : List Token) :
    Takes (InString s.toList ts) string s (Shows ts) := by
  -- the characters read so far, in reverse, and those to come make up the string
  let I (cs acc : List Char) (i : Input) : Prop := acc.reverse ++ cs = s.toList ∧ InString cs ts i
  have hsize : ∀ cs acc i, I cs acc i → cs.length ≤ i.left := fun _ _ _ hi => hi.2.length_le
  refine Reads.bind (Q := fun acc j => acc.reverse = s.toList ∧ Shows ts j) ?_ fun acc => ?_
  · refine (Reads.repeatStep I List.length hsize ?_ s.toList []).pre fun i hi => ⟨rfl, hi⟩
    rintro cs acc
    refine Reads.and_pre fun hacc => ?_
    cases cs with
    | nil =>
        refine Reads.bind_takes takes_stringChar_nil (Reads.pure fun i hi => ⟨?_, hi⟩)
        simpa using hacc
    | cons c cs =>
        refine Reads.bind_takes takes_stringChar_cons (Reads.pure fun i hi => ?_)
        exact ⟨cs, Nat.lt_succ_self _, by simpa using hacc, hi⟩
  · exact Reads.and_pre fun hacc => Reads.pure fun i hi => ⟨by rw [hacc, String.ofList_toList], hi⟩

/-! ### Pieces of a string -/

/-- The content of a string that is taken piece by piece. -/
inductive Pieces : List Char → Prop
  | nil : Pieces []
  | plain {c : Char} {text : List Char} :
      c ≠ '"' → c ≠ '\\' → 0x20 ≤ c.toNat → Pieces text → Pieces (c :: text)
  | short {c letter : Char} {text : List Char} :
      shortEscape? letter = some c → Pieces text → Pieces ('\\' :: letter :: text)
  | unit {a b c d : Char} {n : ℕ} {text : List Char} :
      hexNumber? [a, b, c, d] = some n → Pieces text →
        Pieces ('\\' :: 'u' :: a :: b :: c :: d :: text)

lemma pieces_of_writtenChars (h : WrittenChars cs text) : Pieces text := by
  induction h with
  | nil => exact .nil
  | cons hchar _ ih =>
      cases hchar with
      | plain hquote hback hc => exact .plain hquote hback hc ih
      | short hletter => exact .short hletter ih
      | unit hnumber => exact .unit hnumber ih
      | pair hhigh _ _ hlow => exact .unit hhigh (.unit hlow ih)

/-- A string nobody wants is taken. -/
lemma takes_skipString (s : String) (ts : List Token) :
    Takes (InString s.toList ts) skipString () (Shows ts) := by
  let I (text : List Char) (_ : Unit) (i : Input) : Prop :=
    Pieces text ∧ ∃ rest, Laid ts rest ∧ i = ofList (text ++ '"' :: rest)
  have hsize : ∀ text u i, I text u i → text.length ≤ i.left := by
    rintro text - i ⟨-, rest, -, rfl⟩
    have hbytes := Text.length_le_byteLength text
    simp only [left_ofList, Text.byteLength_append]
    omega
  refine (Reads.exists_pre fun text => Reads.repeatStep I List.length hsize ?_ text ()).pre ?_
  · rintro text - i ⟨hpieces, rest, hrest, rfl⟩
    cases hpieces with
    | nil =>
        rw [List.nil_append, bind_ok stringChar_quote]
        exact ⟨rfl, rest, hrest, rfl⟩
    | plain hquote hback hc hpieces =>
        rw [List.cons_append, bind_ok (stringChar_plain hquote hback hc)]
        exact ⟨_, Nat.lt_succ_self _, hpieces, rest, hrest, rfl⟩
    | short hletter hpieces =>
        rw [List.cons_append, List.cons_append, bind_ok (stringChar_short hletter)]
        exact ⟨_, by simp only [List.length_cons]; omega, hpieces, rest, hrest, rfl⟩
    | unit hnumber hpieces =>
        simp only [List.cons_append]
        rw [bind_ok (stringChar_unit hnumber rfl)]
        exact ⟨_, by simp only [List.length_cons]; omega, hpieces, rest, hrest, rfl⟩
  · rintro i ⟨text, rest, hchars, hrest, rfl⟩
    exact ⟨text, pieces_of_writtenChars hchars, rest, hrest, rfl⟩

end Reader

end SheetCheck.Json
