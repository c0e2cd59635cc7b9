import Mathlib.Data.List.Basic
import SheetCheck.Json.Printer
import SheetCheck.Proofs.Json.Spelling

/-!
# The compact text of a value

The compact text of a value is a text of the value (`Value.written_text`), as long as its numbers
are integers that fit a 64 bit word: an integer is read back from its decimal digits, and a
character of a string from its escape.
-/

namespace SheetCheck.Json

open Reader (hexNumber? isSpace shortEscape?)

/-! ### Strings -/

/-- A control character is written as a UTF-16 unit of two digits. -/
lemma hexNumber?_control {n : ℕ} (h : n < 0x20) :
    hexNumber? ['0', '0', Nat.digitChar (n / 16), Nat.digitChar (n % 16)] = some n := by
  have hall : ∀ n < 0x20,
      hexNumber? ['0', '0', Nat.digitChar (n / 16), Nat.digitChar (n % 16)] = some n := by decide
  exact hall n h

lemma writtenChar_escapeChar (c : Char) : WrittenChar c (escapeChar c) := by
  rw [escapeChar]
  split
  next h =>
    obtain rfl : c = '"' := Char.toNat_inj.1 h
    exact .short rfl
  next h =>
    obtain rfl : c = '\\' := Char.toNat_inj.1 h
    exact .short rfl
  next h =>
    obtain rfl : c = '\x08' := Char.toNat_inj.1 h
    exact .short rfl
  next h =>
    obtain rfl : c = '\t' := Char.toNat_inj.1 h
    exact .short rfl
  next h =>
    obtain rfl : c = '\n' := Char.toNat_inj.1 h
    exact .short rfl
  next h =>
    obtain rfl : c = '\x0c' := Char.toNat_inj.1 h
    exact .short rfl
  next h =>
    obtain rfl : c = '\r' := Char.toNat_inj.1 h
    exact .short rfl
  next hquote hback _ _ _ _ _ =>
    split
    next hcontrol =>
      have hunit := WrittenChar.unit (hexNumber?_control hcontrol) (.inl (by omega))
      rwa [Char.ofNat_toNat] at hunit
    next hcontrol =>
      refine .plain ?_ ?_ (by omega)
      · rintro rfl
        exact hquote rfl
      · rintro rfl
        exact hback rfl

lemma writtenChars_flatMap (cs : List Char) : WrittenChars cs (cs.flatMap escapeChar) := by
  induction cs with
  | nil => exact .nil
  | cons c cs ih => exact .cons (writtenChar_escapeChar c) ih

lemma written_quote (s : String) : (Token.string s).Written (quote s) :=
  .string (writtenChars_flatMap s.toList)

/-! ### Numbers -/

lemma Numeral.le_ofDigitChars (ds : List Char) (n : ℕ) : n ≤ Nat.ofDigitChars 10 ds n := by
  induction ds generalizing n with
  | nil => exact Nat.le_refl n
  | cons d ds ih =>
      rw [Nat.ofDigitChars_cons]
      exact Nat.le_trans (by omega) (ih _)

/-- All digits are gathered when their number does not pass the limit. -/
lemma Numeral.gather_of_le {limit n : ℕ} {ds : List Char} (h : Nat.ofDigitChars 10 ds n ≤ limit) :
    gather limit n ds = (Nat.ofDigitChars 10 ds n, []) := by
  induction ds generalizing n with
  | nil => rfl
  | cons d ds ih =>
      rw [Nat.ofDigitChars_cons] at h ⊢
      have hd : 10 * n + digitValue d ≤ limit := Nat.le_trans (le_ofDigitChars ds _) h
      rw [gather, if_pos hd]
      exact ih h

/-- Only zero starts with a zero. -/
lemma head?_toDigits {n : ℕ} (hpos : 0 < n) : (Nat.toDigits 10 n).head? ≠ some '0' := by
  -- the first digit is that of a smaller number, until only one is left
  induction n using Nat.strongRecOn with
  | ind n ih =>
      rw [Nat.toDigits_eq_if (by decide)]
      split
      next h => simpa [Nat.digitChar_eq_zero] using Nat.ne_of_gt hpos
      next h =>
        rw [List.head?_append_of_ne_nil _ Nat.toDigits_ne_nil]
        exact ih (n / 10) (by omega) (by omega)

lemma wholeDigits_toDigits (n : ℕ) : WholeDigits (Nat.toDigits 10 n) := by
  rcases Nat.eq_zero_or_pos n with rfl | hpos
  · exact .inl rfl
  refine .inr ⟨⟨Nat.toDigits_ne_nil, fun d hd => ?_⟩, head?_toDigits hpos⟩
  exact Nat.isDigit_of_mem_toDigits (by decide) (by decide) hd

lemma writtenNumeral_toDigits (negative : Bool) (n : ℕ) :
    WrittenNumeral ⟨negative, Nat.toDigits 10 n, none, none⟩
      (if negative then '-' :: Nat.toDigits 10 n else Nat.toDigits 10 n) := by
  have h := WrittenNumeral.mk (n := ⟨negative, Nat.toDigits 10 n, none, none⟩)
    (wholeDigits_toDigits n) .none .none
  cases negative <;> simpa using h

/-- An integer that fits a 64 bit word is read from its digits. -/
lemma written_integerText {n : Int} (hmin : -0x8000000000000000 ≤ n)
    (hmax : n < 0x10000000000000000) :
    (Token.number (.integer n)).Written (integerText n) := by
  have hgather : Numeral.gather Numeral.maxWord 0 (Nat.toDigits 10 n.natAbs) = (n.natAbs, []) := by
    have hword : Nat.ofDigitChars 10 (Nat.toDigits 10 n.natAbs) 0 ≤ Numeral.maxWord := by
      rw [Nat.ofDigitChars_ten_toDigits]
      change n.natAbs ≤ 0xFFFFFFFFFFFFFFFF
      omega
    rw [Numeral.gather_of_le hword, Nat.ofDigitChars_ten_toDigits]
  rw [integerText]
  split
  next hneg =>
    refine .number (writtenNumeral_toDigits true n.natAbs) ?_
    have hrange : 1 ≤ n.natAbs ∧ n.natAbs ≤ 1 <<< 63 := by
      rw [Nat.one_shiftLeft]
      omega
    simp only [Numeral.value, hgather, hrange, Bool.not_true, Bool.false_eq_true, if_false,
      and_self, if_true]
    rw [show -(n.natAbs : Int) = n by omega]
  next hneg =>
    refine .number (writtenNumeral_toDigits false n.natAbs) ?_
    simp only [Numeral.value, hgather, Bool.not_false, if_true]
    rw [show (n.natAbs : Int) = n by omega]

/-! ### Values -/

namespace Value

mutual

/-- Every number of a value is an integer that fits a 64 bit word, signed or not. -/
def FitsWords : Value → Prop
  | number (.integer n) => -0x8000000000000000 ≤ n ∧ n < 0x10000000000000000
  | number (.float _) => False
  | array vs => ItemsFitWords vs
  | object ms => MembersFitWords ms
  | _ => True

/-- Every number of some items is an integer that fits a 64 bit word. -/
def ItemsFitWords : List Value → Prop
  | [] => True
  | v :: vs => v.FitsWords ∧ ItemsFitWords vs

/-- Every number of some members is an integer that fits a 64 bit word. -/
def MembersFitWords : List (String × Value) → Prop
  | [] => True
  | (_, v) :: ms => v.FitsWords ∧ MembersFitWords ms

end

mutual

lemma laid_write : ∀ (v : Value) {ts : List Token} {text : List Char}, v.FitsWords →
    Laid ts text → Laid (v.tokens ts) (v.write text)
  | null, _, _, _, h => .token .null h
  | boolean true, _, _, _, h => .token .true h
  | boolean false, _, _, _, h => .token .false h
  | number (.integer _), _, _, hv, h => .token (written_integerText hv.1 hv.2) h
  | number (.float _), _, _, hv, _ => hv.elim
  | string s, _, _, _, h => .token (written_quote s) h
  | array [], _, _, _, h => .token (.mark .openList) (.token (.mark .closeList) h)
  | array (v :: vs), _, _, hv, h =>
      .token (.mark .openList)
        (laid_write v hv.1 (laid_writeItems vs hv.2 (.token (.mark .closeList) h)))
  | object [], _, _, _, h => .token (.mark .openObject) (.token (.mark .closeObject) h)
  | object ((key, v) :: ms), _, _, hv, h => by
      have hmembers := laid_writeMembers ms hv.2 (.token (.mark .closeObject) h)
      have hvalue := laid_write v hv.1 hmembers
      exact .token (.mark .openObject) (.token (written_quote key) (.token (.mark .colon) hvalue))

lemma laid_writeItems : ∀ (vs : List Value) {ts : List Token} {text : List Char},
    ItemsFitWords vs → Laid ts text → Laid (itemTokens false vs ts) (writeItems vs text)
  | [], _, _, _, h => h
  | v :: vs, _, _, hv, h => .token (.mark .comma) (laid_write v hv.1 (laid_writeItems vs hv.2 h))

lemma laid_writeMembers : ∀ (ms : List (String × Value)) {ts : List Token} {text : List Char},
    MembersFitWords ms → Laid ts text → Laid (memberTokens false ms ts) (writeMembers ms text)
  | [], _, _, _, h => h
  | (key, v) :: ms, _, _, hv, h => by
      have hvalue := laid_write v hv.1 (laid_writeMembers ms hv.2 h)
      exact .token (.mark .comma) (.token (written_quote key) (.token (.mark .colon) hvalue))

end

/-- The compact text of a value is a text of it. -/
lemma written_text {v : Value} (hv : v.FitsWords) : v.Written v.text := laid_write v hv .done

end Value

end SheetCheck.Json
