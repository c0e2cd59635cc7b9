import Mathlib.Data.List.DropRight
import Mathlib.Data.List.Induction
import SheetCheck.Proofs.Text.Escape

/-!
# Reading quoted literals

A text that is written as a literal can be read back, whatever it is and whatever stands behind the
literal.  `AsciiLiteral.read` is a reader of such literals: it resolves the escapes and stops at the
first quote that is not escaped.  The main results are

* `AsciiLiteral.read_encode_append`: a literal followed by any text is read as the text that it
  stands for, and what follows is left;
* `AsciiLiteral.escapes_of_encode`: a hash sign before a character that opens an interpolation is
  always escaped;
* `AsciiLiteral.isPrintable_of_mem_encode`: a literal has printable ASCII characters only.

How a character is written depends on the next one.  `AsciiLiteral.Word` lists the shapes that the
written form can have, and each of these results looks at one shape after the other.
-/

namespace SheetCheck.Text.AsciiLiteral

/-! ### The reader -/

/-- Reads a text up to the first quote that is not escaped, and what is left behind it. -/
def readBody (cs : List Char) : Option (List Char × List Char) :=
  match cs with
  | [] => none
  | c :: cs =>
    if c = '"' then some ([], cs)
    else if c = '\\' then
      match _h : unescape? cs with
      | none => none
      | some (d, rest) => (readBody rest).map (Prod.map (d :: ·) id)
    else (readBody cs).map (Prod.map (c :: ·) id)
termination_by cs.length
decreasing_by
  · have := length_lt_of_unescape? _h
    simp only [List.length_cons]
    omega
  · simp

/-- Reads a literal: the text that it stands for, and what is left behind it. -/
def read : List Char → Option (List Char × List Char)
  | '"' :: cs => readBody cs
  | _ => none

/-! ### How a character is written -/

/-- Whether a character is printable and in ASCII. -/
def IsPrintable (c : Char) : Prop := 0x20 ≤ c.toNat ∧ c.toNat ≤ 0x7E

instance : DecidablePred IsPrintable := fun c =>
  inferInstanceAs (Decidable (0x20 ≤ c.toNat ∧ c.toNat ≤ 0x7E))

/-- Whether a character can stand in an escape behind its first letter: it is printable, and is
neither a hash sign nor a backslash. -/
def IsSpelling (c : Char) : Prop := IsPrintable c ∧ c ≠ '#' ∧ c ≠ '\\'

instance : DecidablePred IsSpelling := fun c =>
  inferInstanceAs (Decidable (IsPrintable c ∧ c ≠ '#' ∧ c ≠ '\\'))

/-- The forms in which a character can be written, when `next` follows it. -/
inductive Word (c : Char) (next : Option Char) : List Char → Prop
  /-- As itself.  A hash sign stands for itself unless it would open an interpolation. -/
  | plain (hquote : c ≠ '"') (hback : c ≠ '\\') (hprintable : IsPrintable c)
      (hhash : c = '#' → next.any opensInterpolation = false) : Word c next [c]
  /-- With a backslash in front. -/
  | marked (h : c ∈ ['"', '\\', '#']) : Word c next ['\\', c]
  /-- By letters and digits behind a backslash. -/
  | spelled (spelling : List Char) (hne : spelling ≠ []) (h : ∀ d ∈ spelling, IsSpelling d)
      (hread : ∀ rest, unescape? (spelling ++ rest) = some (c, rest)) :
      Word c next ('\\' :: spelling)

lemma isSpelling_of_isUpperHex {d : Char} (h : isUpperHex d = true) : IsSpelling d := by
  simp only [isUpperHex, Bool.or_eq_true, Bool.and_eq_true, decide_eq_true_eq] at h
  refine ⟨⟨by omega, by omega⟩, ?_, ?_⟩
  · rintro rfl
    exact absurd h (by decide)
  · rintro rfl
    exact absurd h (by decide)

lemma isSpelling_of_mem_hexDigits {width n : ℕ} : ∀ d ∈ hexDigits width n, IsSpelling d :=
  fun _ hd => isSpelling_of_isUpperHex (isUpperHex_of_mem_hexDigits hd)

lemma isSpelling_of_letterOf? {c l : Char} (h : letterOf? c = some l) : IsSpelling l := by
  unfold letterOf? at h
  split at h
  case h_9 => exact absurd h (by simp)
  all_goals
    obtain rfl := Option.some.inj h
    exact ⟨by decide, by decide, by decide⟩

/-- A control character without a letter is written with two digits, a character beyond ASCII with
four, and one beyond the basic plane with digits in braces. -/
lemma word_encodeChar (c : Char) (next : Option Char) : Word c next (encodeChar c next) := by
  have hx : IsSpelling 'x' := by decide
  have hu : IsSpelling 'u' := by decide
  unfold encodeChar
  split
  · next h =>
      refine .marked ?_
      rcases h with rfl | rfl <;> decide
  · next h =>
      obtain ⟨hquote, hback⟩ := not_or.1 h
      split
      · next hhash =>
          subst hhash
          split
          · exact .marked (by decide)
          · next hopen =>
              exact .plain hquote hback (by decide) fun _ => by simpa using hopen
      · next hhash =>
          split
          · next l hl =>
              refine .spelled [l] (by simp) ?_ (unescape?_letter (charOfLetter?_of_letterOf? hl))
              exact List.forall_mem_singleton.2 (isSpelling_of_letterOf? hl)
          · split
            · next hcontrol =>
                refine .spelled _ (by simp) ?_ (unescape?_short (by omega))
                exact List.forall_mem_cons.2 ⟨hx, isSpelling_of_mem_hexDigits⟩
            · next hcontrol =>
                split
                · exact .plain hquote hback ⟨by omega, by omega⟩ fun h => absurd h hhash
                · split
                  · next hbasic =>
                      refine .spelled _ (by simp) ?_ (unescape?_basic hbasic)
                      exact List.forall_mem_cons.2 ⟨hu, isSpelling_of_mem_hexDigits⟩
                  · refine .spelled _ (by simp) ?_ (unescape?_braced c)
                    have hclose : IsSpelling '\x7d' := by decide
                    refine List.forall_mem_append.2 ⟨?_, List.forall_mem_singleton.2 hclose⟩
                    refine List.forall_mem_cons.2 ⟨hu, List.forall_mem_cons.2 ⟨by decide, ?_⟩⟩
                    exact isSpelling_of_mem_hexDigits

/-! ### Reading back -/

lemma readBody_quote (rest : List Char) : readBody ('"' :: rest) = some ([], rest) := by
  rw [readBody, if_pos rfl]

lemma readBody_escape {cs rest : List Char} {d : Char} (h : unescape? cs = some (d, rest)) :
    readBody ('\\' :: cs) = (readBody rest).map (Prod.map (d :: ·) id) := by
  rw [readBody, if_neg (by decide), if_pos rfl]
  split
  · next hnone => exact absurd (h.symm.trans hnone) (by simp)
  · next hsome =>
      obtain ⟨rfl, rfl⟩ := Prod.mk.inj (Option.some.inj (h.symm.trans hsome))
      rfl

/-- However a character is written, it is read back. -/
lemma Word.readBody_append {c : Char} {next : Option Char} {word : List Char}
    (h : Word c next word) (rest : List Char) :
    readBody (word ++ rest) = (readBody rest).map (Prod.map (c :: ·) id) := by
  cases h with
  | plain hquote hback => rw [List.singleton_append, readBody, if_neg hquote, if_neg hback]
  | marked h =>
      have hletter : charOfLetter? c = some c := by
        simp only [List.mem_cons, List.not_mem_nil, or_false] at h
        rcases h with rfl | rfl | rfl <;> rfl
      exact readBody_escape (unescape?_letter hletter rest)
  | spelled spelling hne h hread => exact readBody_escape (hread rest)

lemma readBody_body (cs rest : List Char) :
    readBody (body cs ++ '"' :: rest) = some (cs, rest) := by
  induction cs with
  | nil => exact readBody_quote rest
  | cons c cs ih =>
      rw [body, List.append_assoc, (word_encodeChar c cs.head?).readBody_append, ih]
      rfl

/-- A literal is read as the text it stands for, whatever follows it. -/
lemma read_encode_append (cs rest : List Char) : read (encode cs ++ rest) = some (cs, rest) := by
  have hshape : encode cs ++ rest = '"' :: (body cs ++ '"' :: rest) := by simp [encode]
  rw [hshape]
  exact readBody_body cs rest

/-- What a literal stands for and where it ends can be told from any text that it begins. -/
lemma encode_append_inj {as bs cs ds : List Char} (h : encode as ++ cs = encode bs ++ ds) :
    as = bs ∧ cs = ds := by
  have hread := congrArg read h
  rw [read_encode_append, read_encode_append] at hread
  exact Prod.mk.inj (Option.some.inj hread)

/-! ### The characters of a literal -/

section Word

variable {c : Char} {next : Option Char} {word : List Char}

lemma Word.isPrintable (h : Word c next word) : ∀ d ∈ word, IsPrintable d := by
  have hback : IsPrintable '\\' := by decide
  cases h with
  | plain _ _ hprintable => exact List.forall_mem_singleton.2 hprintable
  | marked h =>
      have hall : ∀ d ∈ ['"', '\\', '#'], IsPrintable d := by
        rw [List.forall_mem_cons, List.forall_mem_cons, List.forall_mem_singleton]
        decide
      exact List.forall_mem_cons.2 ⟨hback, List.forall_mem_singleton.2 (hall c h)⟩
  | spelled spelling _ h => exact List.forall_mem_cons.2 ⟨hback, fun d hd => (h d hd).1⟩

end Word

lemma isPrintable_of_mem_body (cs : List Char) : ∀ d ∈ body cs, IsPrintable d := by
  induction cs with
  | nil => exact fun d hd => absurd hd List.not_mem_nil
  | cons c cs ih => exact List.forall_mem_append.2 ⟨(word_encodeChar c cs.head?).isPrintable, ih⟩

lemma isPrintable_of_mem_encode (cs : List Char) : ∀ d ∈ encode cs, IsPrintable d := by
  have hquote : IsPrintable '"' := by decide
  refine List.forall_mem_append.2 ⟨?_, List.forall_mem_singleton.2 hquote⟩
  exact List.forall_mem_cons.2 ⟨hquote, isPrintable_of_mem_body cs⟩

/-! ### Hash signs -/

/-- The number of backslashes at the end of a text. -/
def trailing (front : List Char) : ℕ := (front.rtakeWhile (· = '\\')).length

/-- What stands behind `front` is escaped: the backslashes right before it do not pair up. -/
def Escapes (front : List Char) : Prop := trailing front % 2 = 1

instance : DecidablePred Escapes := fun front =>
  inferInstanceAs (Decidable (trailing front % 2 = 1))

lemma trailing_concat (front : List Char) (d : Char) :
    trailing (front ++ [d]) = if d = '\\' then trailing front + 1 else 0 := by
  by_cases hd : d = '\\' <;> simp [trailing, hd]

/-- Backslashes that pair up do not escape what stands further on. -/
lemma escapes_append {word : List Char} (h : trailing word % 2 = 0) (front : List Char) :
    Escapes (word ++ front) ↔ Escapes front := by
  unfold Escapes
  induction front using List.reverseRecOn with
  | nil =>
      rw [List.append_nil, h]
      decide
  | append_singleton front d ih =>
      rw [← List.append_assoc, trailing_concat, trailing_concat]
      by_cases hd : d = '\\'
      · rw [if_pos hd, if_pos hd]
        omega
      · rw [if_neg hd, if_neg hd]

section Word

variable {c : Char} {next : Option Char} {word : List Char}

/-- The written form of a character leaves no escape open. -/
lemma Word.trailing_even (h : Word c next word) : trailing word % 2 = 0 := by
  cases h with
  | plain _ hback =>
      have hlast := trailing_concat [] c
      rw [if_neg hback] at hlast
      exact congrArg (· % 2) hlast
  | marked h =>
      have hall : ∀ d ∈ ['"', '\\', '#'], trailing ['\\', d] % 2 = 0 := by
        rw [List.forall_mem_cons, List.forall_mem_cons, List.forall_mem_singleton]
        decide
      exact hall c h
  | spelled spelling hne h =>
      obtain ⟨init, d, rfl⟩ := (List.eq_nil_or_concat spelling).resolve_left hne
      have hd : d ≠ '\\' := (h d (by simp)).2.2
      rw [List.concat_eq_append, ← List.cons_append, trailing_concat, if_neg hd]

/-- A hash sign in the written form of a character is escaped there, or stands for itself and does
not open an interpolation. -/
lemma Word.of_hash {front back : List Char} (h : Word c next (front ++ '#' :: back)) :
    Escapes front ∨ (front = [] ∧ back = [] ∧ next.any opensInterpolation = false) := by
  generalize hword : front ++ '#' :: back = word at h
  cases h with
  | plain _ _ _ hhash =>
      obtain ⟨rfl, hrest⟩ | ⟨_, -, h⟩ := List.append_eq_cons_iff.1 hword
      · obtain ⟨rfl, rfl⟩ := List.cons.inj hrest
        exact Or.inr ⟨rfl, rfl, hhash rfl⟩
      · exact absurd h (by simp)
  | marked h =>
      obtain ⟨rfl, hrest⟩ | ⟨rest, rfl, hrest⟩ := List.append_eq_cons_iff.1 hword
      · exact absurd (List.cons.inj hrest).1 (by decide)
      · obtain ⟨rfl, -⟩ | ⟨_, -, h⟩ := List.append_eq_cons_iff.1 hrest.symm
        · exact Or.inl (by decide)
        · exact absurd h (by simp)
  | spelled spelling _ h =>
      have hmem : '#' ∈ '\\' :: spelling := hword ▸ List.mem_append_right front List.mem_cons_self
      rcases List.mem_cons.1 hmem with heq | hmem
      · exact absurd heq (by decide)
      · exact absurd rfl (h '#' hmem).2.1

end Word

/-- A text whose written form does not begin with a backslash begins with the same character. -/
lemma head?_of_body_eq_cons {cs back : List Char} {c : Char} (h : body cs = c :: back)
    (hc : c ≠ '\\') : cs.head? = some c := by
  cases cs with
  | nil => exact absurd h (by simp [body])
  | cons e es =>
      rw [body] at h
      have hword := word_encodeChar e es.head?
      generalize encodeChar e es.head? = word at h hword
      cases hword with
      | plain => exact congrArg some (List.cons.inj h).1
      | marked => exact absurd (List.cons.inj h).1.symm hc
      | spelled => exact absurd (List.cons.inj h).1.symm hc

/-- A hash sign is escaped wherever it would open an interpolation. -/
lemma escapes_of_body {cs : List Char} {c : Char} (hc : opensInterpolation c = true) :
    ∀ front back, body cs = front ++ '#' :: c :: back → Escapes front := by
  induction cs with
  | nil => exact fun front back heq => absurd heq (by simp [body])
  | cons d ds ih =>
      intro front back heq
      have hword := word_encodeChar d ds.head?
      rcases List.append_eq_append_iff.1 heq with ⟨rest, rfl, hrest⟩ | ⟨rest, hfront, hrest⟩
      · exact (escapes_append hword.trailing_even rest).2 (ih rest back hrest)
      · cases rest with
        | nil => exact absurd (ih [] back hrest.symm) (by decide)
        | cons hash rest =>
            obtain ⟨rfl, htail⟩ := List.cons.inj hrest
            rw [hfront] at hword
            rcases hword.of_hash with hfront | ⟨rfl, rfl, hnext⟩
            · exact hfront
            · -- the hash sign stands for itself, so that the next character opens nothing
              have hback : c ≠ '\\' := by
                rintro rfl
                exact absurd hc (by decide)
              rw [head?_of_body_eq_cons htail.symm hback, Option.any_some, hc] at hnext
              exact absurd hnext (by decide)

lemma escapes_of_encode {cs front back : List Char} {c : Char} (hc : opensInterpolation c = true)
    (h : encode cs = front ++ '#' :: c :: back) : Escapes front := by
  have hquote : c ≠ '"' := by
    rintro rfl
    exact absurd hc (by decide)
  cases front with
  | nil => exact absurd (List.cons.inj h).1 (by decide)
  | cons quote front =>
      obtain ⟨rfl, hinside⟩ := List.cons.inj h
      -- the closing quote is neither of the two characters
      rcases List.eq_nil_or_concat back with rfl | ⟨back, d, rfl⟩
      · have hsplit : body cs ++ ['"'] = (front ++ ['#']) ++ [c] := by simpa using hinside
        obtain ⟨-, hlast⟩ := List.append_inj' hsplit rfl
        exact absurd (List.cons.inj hlast).1.symm hquote
      · have hsplit : body cs ++ ['"'] = (front ++ '#' :: c :: back) ++ [d] := by
          simpa using hinside
        obtain ⟨hbody, -⟩ := List.append_inj' hsplit rfl
        have heven : trailing ['"'] % 2 = 0 := rfl
        exact (escapes_append heven front).2 (escapes_of_body hc front back hbody)

/-- **Literals can be read back.**  A literal consists of printable ASCII characters only and stands
between two quotes.  Followed by any text it is read as the text that it stands for, and what
follows is left.  No hash sign in it opens an interpolation.  So different texts have different
literals, and no literal begins with another one. -/
theorem encode_readable (cs : List Char) :
    (∀ c ∈ encode cs, 0x20 ≤ c.toNat ∧ c.toNat ≤ 0x7E) ∧
    (∃ inside, encode cs = '"' :: inside ++ ['"']) ∧
    (∀ rest, read (encode cs ++ rest) = some (cs, rest)) ∧
    (∀ front c back, encode cs = front ++ '#' :: c :: back → c ∈ ['\x7b', '$', '@'] →
      Escapes front) ∧
    Function.Injective encode ∧ ∀ as bs : List Char, encode as <+: encode bs → as = bs := by
  refine ⟨isPrintable_of_mem_encode cs, ⟨body cs, rfl⟩, read_encode_append cs, ?_, ?_, ?_⟩
  · intro front c back h hc
    have hopens : ∀ c ∈ ['\x7b', '$', '@'], opensInterpolation c = true :=
      List.all_eq_true.1 rfl
    exact escapes_of_encode (hopens c hc) h
  · intro as bs h
    have hends : encode as ++ [] = encode bs ++ [] := by rw [h]
    exact (encode_append_inj hends).1
  · rintro as bs ⟨rest, h⟩
    have hends : encode as ++ rest = encode bs ++ [] := by rw [h, List.append_nil]
    exact (encode_append_inj hends).1

end SheetCheck.Text.AsciiLiteral
