import Mathlib.Data.List.Infix
import Mathlib.Data.List.TakeWhile
import SheetCheck.Json.Reader.String
import SheetCheck.Text.AsciiLiteral

/-!
# Escapes

What stands behind a backslash in a quoted literal: a letter or a mark, two digits behind an `x`,
four behind a `u`, or digits in braces.  `AsciiLiteral.unescape?` takes one escape off a text.  How
much it takes is settled by the escape alone, and never by what follows it, so that each escape
that is written for a character is read as that character in front of any text
(`unescape?_letter`, `unescape?_short`, `unescape?_basic`, `unescape?_braced`).
-/

namespace SheetCheck.Text.AsciiLiteral

open Json.Reader (hexDigit? hexNumber?)

/-! ### What an escape stands for -/

/-- The character with the code that hexadecimal digits write, if there are digits and there is
such a character. -/
def charOfHex? (digits : List Char) : Option Char :=
  if digits = [] then none
  else (hexNumber? digits).bind fun n => if n.isValidChar then some (Char.ofNat n) else none

/-- The character that a letter or a mark behind a backslash stands for. -/
def charOfLetter? (letter : Char) : Option Char :=
  match letter with
  | '"' => some '"'
  | '\\' => some '\\'
  | '#' => some '#'
  | 'a' => some '\x07'
  | 'b' => some '\x08'
  | 't' => some '\t'
  | 'n' => some '\n'
  | 'v' => some '\x0b'
  | 'f' => some '\x0c'
  | 'r' => some '\r'
  | 'e' => some '\x1b'
  | _ => none

/-- The character that an escape stands for, and what follows the escape, behind its backslash. -/
def unescape? : List Char → Option (Char × List Char)
  | 'x' :: a :: b :: rest => (charOfHex? [a, b]).map (·, rest)
  | 'u' :: '\x7b' :: rest =>
    if '\x7d' ∈ rest then
      (charOfHex? (rest.takeWhile (· ≠ '\x7d'))).map
        (·, (rest.dropWhile (· ≠ '\x7d')).tail)
    else none
  | 'u' :: a :: b :: c :: d :: rest => (charOfHex? [a, b, c, d]).map (·, rest)
  | letter :: rest => (charOfLetter? letter).map (·, rest)
  | [] => none

lemma length_lt_of_unescape? {cs rest : List Char} {c : Char}
    (h : unescape? cs = some (c, rest)) : rest.length < cs.length := by
  unfold unescape? at h
  split at h
  · obtain ⟨_, -, heq⟩ := Option.map_eq_some_iff.1 h
    obtain ⟨-, rfl⟩ := Prod.mk.inj heq
    simp only [List.length_cons]
    omega
  · next text =>
      split at h
      · obtain ⟨_, -, heq⟩ := Option.map_eq_some_iff.1 h
        obtain ⟨-, rfl⟩ := Prod.mk.inj heq
        have hdrop : (text.dropWhile (· ≠ '\x7d')).length ≤ text.length :=
          (List.dropWhile_suffix _).length_le
        simp only [List.length_tail, List.length_cons]
        omega
      · exact absurd h (by simp)
  · obtain ⟨_, -, heq⟩ := Option.map_eq_some_iff.1 h
    obtain ⟨-, rfl⟩ := Prod.mk.inj heq
    simp only [List.length_cons]
    omega
  · obtain ⟨_, -, heq⟩ := Option.map_eq_some_iff.1 h
    obtain ⟨-, rfl⟩ := Prod.mk.inj heq
    simp only [List.length_cons]
    omega
  · exact absurd h (by simp)

/-! ### Hexadecimal digits -/

lemma hexNumber?_concat (ds : List Char) (d : Char) :
    hexNumber? (ds ++ [d]) = (hexNumber? ds).bind fun n => (hexDigit? d).map (16 * n + ·) := by
  rw [hexNumber?, List.foldlM_append]
  simp [hexNumber?]

lemma hexDigit?_digitChar : ∀ d < 16, hexDigit? (Nat.digitChar d).toUpper = some d := by
  decide

/-- What holds of a single digit, and is kept when one more digit is written, holds of all digits of
a number. -/
lemma toDigits_induction {P : ℕ → List Char → Prop}
    (single : ∀ d < 16, P d [(Nat.digitChar d).toUpper])
    (concat : ∀ n ds, P n ds → ∀ d < 16, P (16 * n + d) (ds ++ [(Nat.digitChar d).toUpper]))
    (n : ℕ) : P n ((Nat.toDigits 16 n).map Char.toUpper) := by
  induction n using Nat.strong_induction_on with
  | _ n ih =>
      by_cases hn : n < 16
      · rw [Nat.toDigits_of_lt_base hn]
        exact single n hn
      · have hlt : n / 16 < n := Nat.div_lt_self (by omega) (by decide)
        have hkept := concat _ _ (ih _ hlt) (n % 16) (Nat.mod_lt n (by decide))
        rw [Nat.div_add_mod] at hkept
        rwa [Nat.toDigits_of_base_le (by decide) (by omega), List.map_append]

/-- Digits in upper case are read as the number that they write. -/
lemma hexNumber?_toDigits (n : ℕ) :
    hexNumber? ((Nat.toDigits 16 n).map Char.toUpper) = some n := by
  have hread : ∀ n ds, hexNumber? ds = some n → ∀ d < 16,
      hexNumber? (ds ++ [(Nat.digitChar d).toUpper]) = some (16 * n + d) := by
    intro n ds hds d hd
    rw [hexNumber?_concat, hds, Option.bind_some, hexDigit?_digitChar d hd, Option.map_some]
  induction n using toDigits_induction with
  | single d hd => simpa using hread 0 [] rfl d hd
  | concat n ds hds d hd => exact hread n ds hds d hd

/-- Zeros in front do not count. -/
lemma hexNumber?_replicate_append (k : ℕ) (ds : List Char) :
    hexNumber? (List.replicate k '0' ++ ds) = hexNumber? ds := by
  induction k with
  | zero => rfl
  | succ k ih =>
      rw [← ih]
      rfl

lemma hexNumber?_hexDigits (width n : ℕ) : hexNumber? (hexDigits width n) = some n := by
  rw [hexDigits, hexNumber?_replicate_append, hexNumber?_toDigits]

/-- The code of a character is read as this character. -/
lemma charOfHex?_hexDigits (width : ℕ) (c : Char) :
    charOfHex? (hexDigits width c.toNat) = some c := by
  have hne : hexDigits width c.toNat ≠ [] := by
    simp [hexDigits, Nat.toDigits_ne_nil]
  have hvalid : c.toNat.isValidChar := c.valid
  rw [charOfHex?, if_neg hne, hexNumber?_hexDigits, Option.bind_some, if_pos hvalid,
    Char.ofNat_toNat]

/-- Whether a character is a hexadecimal digit in upper case. -/
def isUpperHex (c : Char) : Bool :=
  let n := c.toNat
  (0x30 ≤ n && n ≤ 0x39) || (0x41 ≤ n && n ≤ 0x46)

lemma isUpperHex_digitChar : ∀ d < 16, isUpperHex (Nat.digitChar d).toUpper = true := by
  decide

lemma isUpperHex_of_mem_toDigits (n : ℕ) :
    ∀ d ∈ (Nat.toDigits 16 n).map Char.toUpper, isUpperHex d = true := by
  induction n using toDigits_induction with
  | single d hd => exact List.forall_mem_singleton.2 (isUpperHex_digitChar d hd)
  | concat n ds hds d hd =>
      exact List.forall_mem_append.2 ⟨hds, List.forall_mem_singleton.2 (isUpperHex_digitChar d hd)⟩

lemma isUpperHex_of_mem_hexDigits {width n : ℕ} {d : Char} (h : d ∈ hexDigits width n) :
    isUpperHex d = true := by
  rw [hexDigits] at h
  rcases List.mem_append.1 h with h | h
  · rw [List.eq_of_mem_replicate h]
    rfl
  · exact isUpperHex_of_mem_toDigits n d h

lemma length_hexDigits {width n : ℕ} (hle : (Nat.toDigits 16 n).length ≤ width) :
    (hexDigits width n).length = width := by
  simp only [hexDigits, List.length_append, List.length_replicate, List.length_map]
  omega

/-! ### Reading an escape -/

section Escape

variable {c d : Char}

lemma charOfLetter?_of_letterOf? {l : Char} (h : letterOf? c = some l) :
    charOfLetter? l = some c := by
  have hcode : ∀ n : ℕ, c.toNat = n → c = Char.ofNat n := by
    rintro n rfl
    exact (Char.ofNat_toNat c).symm
  unfold letterOf? at h
  split at h
  case h_9 => exact absurd h (by simp)
  all_goals
    next hn =>
      obtain rfl := Option.some.inj h
      rw [hcode _ hn]
      rfl

/-- No escape with digits begins with one of the letters that stand for a character. -/
lemma unescape?_letter {l : Char} (h : charOfLetter? l = some d) (rest : List Char) :
    unescape? (l :: rest) = some (d, rest) := by
  have hx : l ≠ 'x' := by
    rintro rfl
    exact Option.some_ne_none d h.symm
  have hu : l ≠ 'u' := by
    rintro rfl
    exact Option.some_ne_none d h.symm
  rw [unescape?.eq_4 _ _ (by simp [hx]) (by simp [hu]) (by simp [hu]), h]
  rfl

lemma unescape?_short (h : c.toNat < 0x80) (rest : List Char) :
    unescape? ('x' :: hexDigits 2 c.toNat ++ rest) = some (c, rest) := by
  have hlength : (hexDigits 2 c.toNat).length = 2 :=
    length_hexDigits ((Nat.length_toDigits_le_iff (by decide) (by decide)).2 (by omega))
  have hread := charOfHex?_hexDigits 2 c
  obtain ⟨x, y, hdigits⟩ := List.length_eq_two.1 hlength
  rw [hdigits] at hread ⊢
  change unescape? ('x' :: x :: y :: rest) = _
  rw [unescape?, hread]
  rfl

lemma unescape?_basic (h : c.toNat ≤ 0xFFFF) (rest : List Char) :
    unescape? ('u' :: hexDigits 4 c.toNat ++ rest) = some (c, rest) := by
  have hlength : (hexDigits 4 c.toNat).length = 4 :=
    length_hexDigits ((Nat.length_toDigits_le_iff (by decide) (by decide)).2 (by omega))
  have hread := charOfHex?_hexDigits 4 c
  obtain ⟨x, y, z, w, hdigits⟩ := List.length_eq_four.1 hlength
  -- no digit is a brace, so that the four digits are not taken for digits in braces
  have hx : x ≠ '\x7b' := by
    rintro rfl
    have hbrace : isUpperHex '\x7b' = true :=
      isUpperHex_of_mem_hexDigits (hdigits ▸ List.mem_cons_self)
    exact absurd hbrace (by decide)
  rw [hdigits] at hread ⊢
  change unescape? ('u' :: x :: y :: z :: w :: rest) = _
  rw [unescape?.eq_3 _ _ _ _ _ hx, hread]
  rfl

/-- The digits in braces end where the closing brace stands. -/
lemma unescape?_braced (c : Char) (rest : List Char) :
    unescape? ('u' :: '\x7b' :: hexDigits 1 c.toNat ++ ['\x7d'] ++ rest) = some (c, rest) := by
  have hdigits : ∀ d ∈ hexDigits 1 c.toNat, decide (d ≠ '\x7d') = true := by
    intro d hd
    have hdigit := isUpperHex_of_mem_hexDigits hd
    rw [decide_eq_true_eq]
    rintro rfl
    exact absurd hdigit (by decide)
  have hmem : '\x7d' ∈ hexDigits 1 c.toNat ++ '\x7d' :: rest := by simp
  have htake : (hexDigits 1 c.toNat ++ '\x7d' :: rest).takeWhile (· ≠ '\x7d') =
      hexDigits 1 c.toNat := by
    rw [List.takeWhile_append_of_pos hdigits]
    exact List.append_nil _
  have hdrop : (hexDigits 1 c.toNat ++ '\x7d' :: rest).dropWhile (· ≠ '\x7d') =
      '\x7d' :: rest := by
    rw [List.dropWhile_append_of_pos hdigits]
    rfl
  rw [List.append_assoc, List.singleton_append]
  change unescape? ('u' :: '\x7b' :: (hexDigits 1 c.toNat ++ '\x7d' :: rest)) = _
  rw [unescape?, if_pos hmem, htake, hdrop, charOfHex?_hexDigits]
  rfl

end Escape

end SheetCheck.Text.AsciiLiteral
