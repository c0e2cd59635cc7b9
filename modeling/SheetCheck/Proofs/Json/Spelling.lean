import Mathlib.Data.List.Basic
import SheetCheck.Json.Reader.String
import SheetCheck.Json.Numeral

/-!
# The texts of a value

A JSON text is a row of tokens with white space around them.  `Value.tokens` lists the tokens of a
value, `Token.Written` says how one of them may be written, and `Laid` that a text consists of some
tokens, one after the other, with any white space between them.  So `Value.Written` holds of all
texts of a value: a character of a string may stand there itself or as one of its escapes, and a
number may have a fraction and an exponent.

The tokens of a value stand in front of others, as its text does when it is written.  A number must
not run into what follows it, and in a text of a value it never does, since only marks follow
values (`Followed`).
-/

namespace SheetCheck.Json

open Reader (hexNumber? isSpace shortEscape?)

/-! ### Tokens -/

/-- A punctuation mark. -/
inductive Mark where
  | openList
  | closeList
  | openObject
  | closeObject
  | comma
  | colon
deriving DecidableEq, Repr

/-- The character that a mark is written with. -/
def Mark.char : Mark → Char
  | openList => '['
  | closeList => ']'
  | openObject => '\x7b'
  | closeObject => '\x7d'
  | comma => ','
  | colon => ':'

/-- A token of a JSON text. -/
inductive Token where
  | mark (m : Mark)
  | null
  | boolean (b : Bool)
  | number (x : Number)
  | string (s : String)

/-- A comma in front of all items of a list but the first. -/
def separated (first : Bool) (ts : List Token) : List Token :=
  if first then ts else .mark .comma :: ts

@[simp] lemma separated_true (ts : List Token) : separated true ts = ts := rfl

namespace Value

mutual

/-- The tokens of a value, in front of `ts`. -/
def tokens : Value → List Token → List Token
  | null, ts => .null :: ts
  | boolean b, ts => .boolean b :: ts
  | number x, ts => .number x :: ts
  | string s, ts => .string s :: ts
  | array vs, ts => .mark .openList :: itemTokens true vs (.mark .closeList :: ts)
  | object ms, ts => .mark .openObject :: memberTokens true ms (.mark .closeObject :: ts)

/-- The tokens of the items of an array, in front of `ts`. -/
def itemTokens (first : Bool) : List Value → List Token → List Token
  | [], ts => ts
  | v :: vs, ts => separated first (tokens v (itemTokens false vs ts))

/-- The tokens of the members of an object, in front of `ts`. -/
def memberTokens (first : Bool) : List (String × Value) → List Token → List Token
  | [], ts => ts
  | (key, v) :: ms, ts =>
    separated first (.string key :: .mark .colon :: tokens v (memberTokens false ms ts))

end

mutual

/-- The number of brackets that are open at once at the deepest place of a value. -/
def depth : Value → ℕ
  | array vs => depthOfItems vs + 1
  | object ms => depthOfMembers ms + 1
  | _ => 0

/-- The greatest depth of some items. -/
def depthOfItems : List Value → ℕ
  | [] => 0
  | v :: vs => max (depth v) (depthOfItems vs)

/-- The greatest depth of some members. -/
def depthOfMembers : List (String × Value) → ℕ
  | [] => 0
  | (_, v) :: ms => max (depth v) (depthOfMembers ms)

end

lemma depthOfItems_le_iff {vs : List Value} {n : ℕ} :
    depthOfItems vs ≤ n ↔ ∀ v ∈ vs, v.depth ≤ n := by
  induction vs with
  | nil => simp [depthOfItems]
  | cons v vs ih => rw [depthOfItems, Nat.max_le, ih, List.forall_mem_cons]

lemma depthOfMembers_le_iff {ms : List (String × Value)} {n : ℕ} :
    depthOfMembers ms ≤ n ↔ ∀ m ∈ ms, m.2.depth ≤ n := by
  induction ms with
  | nil => simp [depthOfMembers]
  | cons m ms ih => rw [depthOfMembers, Nat.max_le, ih, List.forall_mem_cons]

/-- Some bracket may be opened for an array, and one less within it. -/
lemma depth_array_le_iff {vs : List Value} {n : ℕ} :
    (array vs).depth ≤ n ↔ ∃ inner, n = inner + 1 ∧ ∀ v ∈ vs, v.depth ≤ inner := by
  cases n with
  | zero => simp [depth]
  | succ n => simp [depth, depthOfItems_le_iff]

lemma depth_object_le_iff {ms : List (String × Value)} {n : ℕ} :
    (object ms).depth ≤ n ↔ ∃ inner, n = inner + 1 ∧ ∀ m ∈ ms, m.2.depth ≤ inner := by
  cases n with
  | zero => simp [depth]
  | succ n => simp [depth, depthOfMembers_le_iff]

end Value

/-! ### How a token may be written -/

/-- How a character may be written in a string: as it is, unless it has to be escaped, with a letter
behind a backslash, or as the one or two UTF-16 units it consists of. -/
inductive WrittenChar : Char → List Char → Prop
  | plain {c : Char} : c ≠ '"' → c ≠ '\\' → 0x20 ≤ c.toNat → WrittenChar c [c]
  | short {c letter : Char} : shortEscape? letter = some c → WrittenChar c ['\\', letter]
  | unit {a b c d : Char} {n : ℕ} : hexNumber? [a, b, c, d] = some n → n < 0xD800 ∨ 0xDFFF < n →
      WrittenChar (Char.ofNat n) ['\\', 'u', a, b, c, d]
  | pair {a b c d e f g h : Char} {high low : ℕ} :
      hexNumber? [a, b, c, d] = some high → 0xD800 ≤ high → high ≤ 0xDBFF →
      hexNumber? [e, f, g, h] = some low → 0xDC00 ≤ low → low ≤ 0xDFFF →
      WrittenChar (Char.ofNat (0x10000 + (high - 0xD800) * 0x400 + (low - 0xDC00)))
        ['\\', 'u', a, b, c, d, '\\', 'u', e, f, g, h]

lemma WrittenChar.length_pos {c : Char} {word : List Char} (h : WrittenChar c word) :
    0 < word.length := by
  cases h <;> exact Nat.succ_pos _

/-- How the characters of a string may be written. -/
inductive WrittenChars : List Char → List Char → Prop
  | nil : WrittenChars [] []
  | cons {c : Char} {cs word text : List Char} :
      WrittenChar c word → WrittenChars cs text → WrittenChars (c :: cs) (word ++ text)

/-- One decimal digit or more. -/
def Digits (ds : List Char) : Prop := ds ≠ [] ∧ ∀ d ∈ ds, d.isDigit

/-- Digits among which a zero in front stands alone. -/
def WholeDigits (ds : List Char) : Prop := ds = ['0'] ∨ Digits ds ∧ ds.head? ≠ some '0'

lemma WholeDigits.digits {ds : List Char} (h : WholeDigits ds) : Digits ds := by
  rcases h with rfl | ⟨hds, -⟩
  · exact ⟨List.cons_ne_nil _ _, fun d hd => by rw [List.mem_singleton.1 hd]; rfl⟩
  · exact hds

/-- How a fraction is written. -/
inductive WrittenFraction : Option (List Char) → List Char → Prop
  | none : WrittenFraction none []
  | some {ds : List Char} : Digits ds → WrittenFraction (some ds) ('.' :: ds)

/-- How an exponent may be written. -/
inductive WrittenExponent : Option (Bool × List Char) → List Char → Prop
  | none : WrittenExponent none []
  | unsigned {e : Char} {ds : List Char} : e = 'e' ∨ e = 'E' → Digits ds →
      WrittenExponent (some (false, ds)) (e :: ds)
  | plus {e : Char} {ds : List Char} : e = 'e' ∨ e = 'E' → Digits ds →
      WrittenExponent (some (false, ds)) (e :: '+' :: ds)
  | minus {e : Char} {ds : List Char} : e = 'e' ∨ e = 'E' → Digits ds →
      WrittenExponent (some (true, ds)) (e :: '-' :: ds)

/-- How a numeral may be written. -/
inductive WrittenNumeral (n : Numeral) : List Char → Prop
  | mk {fraction exponent : List Char} : WholeDigits n.whole →
      WrittenFraction n.fraction fraction → WrittenExponent n.exponent exponent →
      WrittenNumeral n
        ((if n.negative then ['-'] else []) ++ (n.whole ++ (fraction ++ exponent)))

/-- How a token may be written. -/
inductive Token.Written : Token → List Char → Prop
  | mark (m : Mark) : Written (.mark m) [m.char]
  | null : Written .null ['n', 'u', 'l', 'l']
  | true : Written (.boolean true) ['t', 'r', 'u', 'e']
  | false : Written (.boolean false) ['f', 'a', 'l', 's', 'e']
  | number {n : Numeral} {x : Number} {text : List Char} :
      WrittenNumeral n text → n.value = .ok x → Written (.number x) text
  | string {s : String} {text : List Char} :
      WrittenChars s.toList text → Written (.string s) ('"' :: (text ++ ['"']))

/-- A text consists of some tokens, with any white space around them. -/
inductive Laid : List Token → List Char → Prop
  | done : Laid [] []
  | space {ts : List Token} {c : Char} {text : List Char} :
      isSpace c → Laid ts text → Laid ts (c :: text)
  | token {t : Token} {ts : List Token} {word text : List Char} :
      t.Written word → Laid ts text → Laid (t :: ts) (word ++ text)

/-- A text of a value. -/
def Value.Written (v : Value) (text : List Char) : Prop := Laid (v.tokens []) text

/-! ### Where a token starts, and where it ends -/

/-- The characters that a text of a token may start with. -/
def Token.Starts : Token → Char → Prop
  | mark m, c => c = m.char
  | null, c => c = 'n'
  | boolean b, c => c = if b then 't' else 'f'
  | number _, c => c = '-' ∨ c.isDigit
  | string _, c => c = '"'

lemma WrittenNumeral.starts {n : Numeral} {text : List Char} (h : WrittenNumeral n text) :
    ∃ c rest, text = c :: rest ∧ (c = '-' ∨ c.isDigit) := by
  obtain ⟨hwhole, -, -⟩ := h
  cases n.negative with
  | true => exact ⟨_, _, rfl, .inl rfl⟩
  | false =>
      obtain ⟨hne, hdigits⟩ := hwhole.digits
      obtain ⟨d, ds, hds⟩ := List.exists_cons_of_ne_nil hne
      refine ⟨d, _, by rw [hds]; rfl, .inr (hdigits d ?_)⟩
      rw [hds]
      exact List.mem_cons_self

lemma Token.Written.starts {t : Token} {word : List Char} (h : t.Written word) :
    ∃ c rest, word = c :: rest ∧ t.Starts c := by
  cases h with
  | mark | null | true | false | string => exact ⟨_, _, rfl, rfl⟩
  | number hnumeral => exact hnumeral.starts

/-- No token starts with white space. -/
lemma Token.Starts.not_isSpace {t : Token} {c : Char} (h : t.Starts c) : isSpace c = false := by
  cases t with
  | mark m => cases m <;> rw [h] <;> rfl
  | null => rw [h]; rfl
  | boolean b => cases b <;> rw [h] <;> rfl
  | string => rw [h]; rfl
  | number =>
      rcases h with rfl | hdigit
      · rfl
      · -- white space lies below the digits
        simp only [Char.isDigit, Bool.and_eq_true, decide_eq_true_eq] at hdigit
        by_contra hspace
        simp only [isSpace, Bool.not_eq_false, Bool.or_eq_true, beq_iff_eq] at hspace
        rcases hspace with ((rfl | rfl) | rfl) | rfl <;> simp at hdigit

/-- Only a mark follows, if anything does. -/
def Followed (ts : List Token) : Prop := ∀ t ∈ ts.head?, ∃ m, t = .mark m

@[simp] lemma followed_mark (m : Mark) (ts : List Token) : Followed (.mark m :: ts) := by
  simp [Followed]

lemma followed_itemTokens (vs : List Value) {ts : List Token} (h : Followed ts) :
    Followed (Value.itemTokens false vs ts) := by
  cases vs with
  | nil => exact h
  | cons v vs => simp [Value.itemTokens, separated]

lemma followed_memberTokens (ms : List (String × Value)) {ts : List Token} (h : Followed ts) :
    Followed (Value.memberTokens false ms ts) := by
  cases ms with
  | nil => exact h
  | cons m ms => simp [Value.memberTokens, separated]

namespace Laid

variable {ts : List Token} {text : List Char}

/-- Every token takes a character. -/
lemma length_le (h : Laid ts text) : ts.length ≤ text.length := by
  induction h with
  | done => exact Nat.le_refl 0
  | space _ _ ih => exact Nat.le_succ_of_le ih
  | token hword _ ih =>
      obtain ⟨c, rest, rfl, -⟩ := hword.starts
      simp only [List.length_cons, List.length_append]
      omega

/-- Behind the white space in front stands the first token. -/
lemma dropWhile_isSpace {t : Token} (h : Laid (t :: ts) text) :
    ∃ word rest, text.dropWhile isSpace = word ++ rest ∧ t.Written word ∧ Laid ts rest := by
  generalize hts : t :: ts = tokens at h
  induction h with
  | done => simp at hts
  | space hspace _ ih =>
      obtain ⟨word, rest, hrest, hword⟩ := ih hts
      exact ⟨word, rest, by rw [List.dropWhile_cons_of_pos hspace, hrest], hword⟩
  | token hword hrest =>
      obtain ⟨rfl, rfl⟩ := List.cons.inj hts
      obtain ⟨c, word, rfl, hstart⟩ := hword.starts
      refine ⟨c :: word, _, ?_, hword, hrest⟩
      rw [List.cons_append, List.dropWhile_cons_of_neg (by simp [hstart.not_isSpace])]

/-- Without tokens there is only white space. -/
lemma dropWhile_isSpace_eq_nil (h : Laid [] text) : text.dropWhile isSpace = [] := by
  generalize hts : ([] : List Token) = tokens at h
  induction h with
  | done => rfl
  | space hspace _ ih => rw [List.dropWhile_cons_of_pos hspace, ih hts]
  | token => simp at hts

/-- What may come directly behind a value. -/
lemma head_of_followed (h : Laid ts text) (hts : Followed ts) :
    ∀ c ∈ text.head?, isSpace c ∨ ∃ m : Mark, c = m.char := by
  intro c hc
  cases h with
  | done => simp at hc
  | space hspace => exact .inl (by simpa [← Option.some.inj hc] using hspace)
  | token hword =>
      obtain ⟨m, rfl⟩ := hts _ rfl
      cases hword
      exact .inr ⟨m, (Option.some.inj hc).symm⟩

end Laid

end SheetCheck.Json
