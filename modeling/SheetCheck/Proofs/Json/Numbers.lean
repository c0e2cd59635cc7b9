import SheetCheck.Json.Reader.Number
import SheetCheck.Proofs.Json.Tokens

/-!
# Reading and skipping numbers

A numeral is read to its end if what follows cannot be part of it, and nothing that follows a value
can.  A number is then the value of its numeral, and one that nobody wants has been taken.
-/

namespace SheetCheck.Json.Reader

open Input

variable {atEnd : Cause} {ds rest : List Char}

/-- No numeral goes on with this text. -/
def EndsNumeral (rest : List Char) : Prop :=
  ∀ c ∈ rest.head?, c.isDigit = false ∧ c ≠ '.' ∧ c ≠ 'e' ∧ c ≠ 'E'

lemma endsNumeral_of_laid {ts : List Token} (h : Laid ts rest) (hts : Followed ts) :
    EndsNumeral rest := by
  intro c hc
  rcases h.head_of_followed hts c hc with hspace | ⟨m, rfl⟩
  · simp only [isSpace, Bool.or_eq_true, beq_iff_eq] at hspace
    rcases hspace with ((rfl | rfl) | rfl) | rfl <;> decide
  · cases m <;> decide

lemma peek_ofList (text : List Char) : peek (ofList text) = .ok text.head? (ofList text) := rfl

/-! ### The parts of a numeral -/

/-- A text that starts with digits starts with a digit. -/
lemma isDigit_of_head (hds : Digits ds) (rest : List Char) :
    ∀ c ∈ (ds ++ rest).head?, c.isDigit := by
  obtain ⟨d, ds, rfl⟩ := List.exists_cons_of_ne_nil hds.1
  intro c hc
  exact hds.2 c (by rw [← Option.some.inj hc]; exact List.mem_cons_self)

lemma digits_ofList (hds : Digits ds) (hrest : ∀ c ∈ rest.head?, c.isDigit = false) :
    digits atEnd (ofList (ds ++ rest)) = .ok ds (ofList rest) := by
  have htake : (ds ++ rest).takeWhile Char.isDigit = ds := by
    rw [List.takeWhile_append_of_pos hds.2]
    cases rest with
    | nil => simp
    | cons c rest => rw [List.takeWhile_cons_of_neg (by simp [hrest c rfl]), List.append_nil]
  have hdrop : (ds ++ rest).dropWhile Char.isDigit = rest := by
    rw [List.dropWhile_append_of_pos hds.2]
    cases rest with
    | nil => rfl
    | cons c rest => rw [List.dropWhile_cons_of_neg (by simp [hrest c rfl])]
  rw [digits, bind_ok (takeWhile_ofList _ _), htake, hdrop, if_neg (by simpa using hds.1)]
  rfl

lemma wholeDigits_ofList (hds : WholeDigits ds)
    (hrest : ∀ c ∈ rest.head?, c.isDigit = false) :
    wholeDigits atEnd (ofList (ds ++ rest)) = .ok ds (ofList rest) := by
  rcases hds with rfl | ⟨hds, hhead⟩
  · rw [wholeDigits, bind_ok (peek_ofList _)]
    refine (bind_ok (advance_ofList_cons '0' rest) _).trans ?_
    rw [bind_ok (peek_ofList rest)]
    cases rest with
    | nil => rfl
    | cons c rest =>
        have hc : c.isDigit = false := hrest c rfl
        simp only [List.head?_cons, hc, Bool.false_eq_true, if_false]
        rfl
  · have hread : digits atEnd (ofList (ds ++ rest)) = .ok ds (ofList rest) :=
      digits_ofList hds hrest
    obtain ⟨d, ds, rfl⟩ := List.exists_cons_of_ne_nil hds.1
    have hd : some d = some '0' → False := hhead
    rw [wholeDigits, bind_ok (peek_ofList _)]
    simp only [List.cons_append, List.head?_cons]
    exact hread

lemma fraction_ofList {f : Option (List Char)} {text : List Char} (h : WrittenFraction f text)
    (hrest : ∀ c ∈ rest.head?, c.isDigit = false ∧ c ≠ '.') :
    fraction atEnd (ofList (text ++ rest)) = .ok f (ofList rest) := by
  rw [fraction, bind_ok (peek_ofList _)]
  cases h with
  | none =>
      have hpoint : rest.head? ≠ some '.' := fun h => (hrest '.' h).2 rfl
      rw [List.nil_append, if_neg hpoint]
      rfl
  | some hds =>
      rw [List.cons_append, List.head?_cons, if_pos rfl]
      refine (bind_ok (advance_ofList_cons _ _) _).trans ?_
      rw [map_eq_pure_bind, bind_ok (digits_ofList hds fun c hc => (hrest c hc).1)]
      rfl

/-- No sign is found in front of digits. -/
lemma sign_of_isDigit {plus : Bool} {text : List Char} (h : ∀ c ∈ text.head?, c.isDigit) :
    sign plus (ofList text) = .ok false (ofList text) := by
  rw [sign, bind_ok (peek_ofList _)]
  cases text with
  | nil => rfl
  | cons c text =>
      have hc : c.isDigit := h c rfl
      have hminus : some c = some '-' → False := by rintro ⟨⟩; simp at hc
      have hplus : some c = some '+' → False := by rintro ⟨⟩; simp at hc
      simp only [List.head?_cons]
      rfl

lemma exponent_ofList {e : Option (Bool × List Char)} {text : List Char}
    (h : WrittenExponent e text)
    (hrest : ∀ c ∈ rest.head?, c.isDigit = false ∧ c ≠ 'e' ∧ c ≠ 'E') :
    exponent atEnd (ofList (text ++ rest)) = .ok e (ofList rest) := by
  -- behind the letter and the sign the digits are read
  have hsigned : ∀ {below : Bool} {signed ds : List Char}, Digits ds →
      sign true (ofList signed) = .ok below (ofList (ds ++ rest)) →
      (do let below ← sign true
          return some (below, ← digits atEnd) : Reader (Option (Bool × List Char)))
        (ofList signed) = .ok (some (below, ds)) (ofList rest) := by
    intro below signed ds hds hsign
    rw [bind_ok hsign, bind_ok (digits_ofList hds fun c hc => (hrest c hc).1)]
    rfl
  rw [exponent, bind_ok (peek_ofList _)]
  cases h with
  | none =>
      rw [List.nil_append]
      cases rest with
      | nil => rfl
      | cons c rest =>
          have hletter : ¬ (c = 'e' ∨ c = 'E') := by simpa using (hrest c rfl).2
          simp only [List.head?_cons, hletter, if_false]
          rfl
  | unsigned hletter hds =>
      simp only [List.cons_append, List.head?_cons, hletter, if_true]
      refine (bind_ok (advance_ofList_cons _ _) _).trans (hsigned hds (sign_of_isDigit ?_))
      exact isDigit_of_head hds rest
  | plus hletter hds =>
      simp only [List.cons_append, List.head?_cons, hletter, if_true]
      refine (bind_ok (advance_ofList_cons _ _) _).trans (hsigned hds ?_)
      rw [sign, bind_ok (peek_ofList _)]
      simp only [List.head?_cons, if_true]
      exact bind_ok (advance_ofList_cons _ _) _
  | minus hletter hds =>
      simp only [List.cons_append, List.head?_cons, hletter, if_true]
      refine (bind_ok (advance_ofList_cons _ _) _).trans (hsigned hds ?_)
      rw [sign, bind_ok (peek_ofList _)]
      exact bind_ok (advance_ofList_cons _ _) _

/-! ### Whole numerals -/

/-- A numeral is read to its end. -/
lemma numeral_ofList {n : Numeral} {text : List Char} (h : WrittenNumeral n text)
    (hrest : EndsNumeral rest) :
    numeral atEnd (ofList (text ++ rest)) = .ok n (ofList rest) := by
  obtain ⟨negative, whole, fraction?, exponent?⟩ := n
  cases h with
  | @mk ftext etext hwhole hfraction hexponent =>
      dsimp only at hwhole hfraction hexponent ⊢
      -- behind each part stands what cannot be taken for its continuation
      have hexp : ∀ c ∈ (etext ++ rest).head?, c.isDigit = false ∧ c ≠ '.' := by
        cases hexponent with
        | none => exact fun c hc => ⟨(hrest c hc).1, (hrest c hc).2.1⟩
        | unsigned hletter | plus hletter | minus hletter =>
            rintro c ⟨⟩
            rcases hletter with rfl | rfl <;> decide
      have hfrac : ∀ c ∈ (ftext ++ (etext ++ rest)).head?, c.isDigit = false := by
        cases hfraction with
        | none => exact fun c hc => (hexp c hc).1
        | some => rintro c ⟨⟩; decide
      have hsign : sign false (ofList ((if negative then ['-'] else []) ++
          (whole ++ (ftext ++ (etext ++ rest))))) =
            .ok negative (ofList (whole ++ (ftext ++ (etext ++ rest)))) := by
        cases negative with
        | false => exact sign_of_isDigit (isDigit_of_head hwhole.digits _)
        | true =>
            rw [sign, bind_ok (peek_ofList _)]
            exact bind_ok (advance_ofList_cons _ _) _
      simp only [List.append_assoc]
      rw [numeral, bind_ok hsign, bind_ok (wholeDigits_ofList hwhole hfrac),
        bind_ok (fraction_ofList hfraction hexp),
        bind_ok (exponent_ofList hexponent fun c hc => ⟨(hrest c hc).1, (hrest c hc).2.2⟩)]
      rfl

variable {x : Number} {ts : List Token}

/-- A number is read, and what follows it is left. -/
lemma takes_number (hts : Followed ts) : Takes (At (.number x) ts) number x (Shows ts) := by
  rintro _ ⟨word, text, hword, htext, rfl⟩
  cases hword with
  | number hnumeral hvalue =>
      rw [number, bind_ok (numeral_ofList hnumeral (endsNumeral_of_laid htext hts)), hvalue]
      exact ⟨rfl, text, htext, rfl⟩

lemma takes_skipNumber (hts : Followed ts) :
    Takes (At (.number x) ts) skipNumber () (Shows ts) := by
  rintro _ ⟨word, text, hword, htext, rfl⟩
  cases hword with
  | number hnumeral hvalue =>
      rw [skipNumber, bind_ok (numeral_ofList hnumeral (endsNumeral_of_laid htext hts))]
      exact ⟨rfl, text, htext, rfl⟩

end SheetCheck.Json.Reader
