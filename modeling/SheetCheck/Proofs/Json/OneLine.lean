import SheetCheck.Proofs.Json.Compact
import SheetCheck.Proofs.Json.Values

/-!
# Values on one line

The compact text of a value has no control characters, not even within strings
(`Value.plain_text`), so that a line of a file can hold it; and it is read back as the value that it
is the text of (`Value.ofText_compact`).  Both are said of values whose numbers are integers that
fit a 64 bit word.
-/

namespace SheetCheck.Json

/-- A text without control characters, a line feed among them. -/
def Plain (text : List Char) : Prop := ∀ c ∈ text, 0x20 ≤ c.toNat

instance (text : List Char) : Decidable (Plain text) :=
  decidable_of_iff (text.all fun c => 0x20 ≤ c.toNat) (by simp [Plain])

namespace Plain

variable {c : Char} {as bs : List Char}

lemma nil : Plain [] := fun _ h => by cases h

lemma cons (hc : 0x20 ≤ c.toNat) (h : Plain as) : Plain (c :: as) :=
  List.forall_mem_cons.2 ⟨hc, h⟩

lemma append (has : Plain as) (hbs : Plain bs) : Plain (as ++ bs) :=
  List.forall_mem_append.2 ⟨has, hbs⟩

/-- A plain text is all on one line. -/
lemma not_mem_newline (h : Plain as) : '\n' ∉ as := fun hmem => absurd (h _ hmem) (by decide)

end Plain

/-! ### Scalars -/

lemma plain_escapeChar (c : Char) : Plain (escapeChar c) := by
  have hshort : ∀ letter : Char, 0x20 ≤ letter.toNat → Plain ['\\', letter] :=
    fun letter h => .cons (by decide) (.cons h .nil)
  have hunit : ∀ n < 0x20,
      Plain ['\\', 'u', '0', '0', Nat.digitChar (n / 16), Nat.digitChar (n % 16)] := by
    decide
  unfold escapeChar
  split
  case h_1 | h_2 | h_3 | h_4 | h_5 | h_6 | h_7 => exact hshort _ (by decide)
  case h_8 =>
    split
    next hcontrol => exact hunit _ hcontrol
    next hcontrol => exact .cons (Nat.le_of_not_lt hcontrol) .nil

lemma plain_quote (s : String) : Plain (quote s) := by
  refine .cons (by decide) (.append ?_ (.cons (by decide) .nil))
  intro c hc
  obtain ⟨d, -, hd⟩ := List.mem_flatMap.1 hc
  exact plain_escapeChar d c hd

lemma plain_toDigits (n : ℕ) : Plain (Nat.toDigits 10 n) := by
  intro c hc
  have hdigit := Nat.isDigit_of_mem_toDigits (by decide) (by decide) hc
  simp only [Char.isDigit, Bool.and_eq_true, decide_eq_true_eq, UInt32.le_iff_toNat_le] at hdigit
  exact Nat.le_trans (by decide) hdigit.1

lemma plain_integerText (n : Int) : Plain (integerText n) := by
  unfold integerText
  split
  · exact .cons (by decide) (plain_toDigits _)
  · exact plain_toDigits _

/-! ### Values -/

namespace Value

mutual

lemma plain_write : ∀ (v : Value) {rest : List Char}, v.FitsWords → Plain rest →
    Plain (v.write rest)
  | null, _, _, h => .append (show Plain ['n', 'u', 'l', 'l'] by decide) h
  | boolean true, _, _, h => .append (show Plain ['t', 'r', 'u', 'e'] by decide) h
  | boolean false, _, _, h => .append (show Plain ['f', 'a', 'l', 's', 'e'] by decide) h
  | number (.integer n), _, _, h => .append (plain_integerText n) h
  | number (.float _), _, hv, _ => hv.elim
  | string s, _, _, h => .append (plain_quote s) h
  | array [], _, _, h => .cons (by decide) (.cons (by decide) h)
  | array (v :: vs), _, hv, h =>
      .cons (by decide) (plain_write v hv.1 (plain_writeItems vs hv.2 (.cons (by decide) h)))
  | object [], _, _, h => .cons (by decide) (.cons (by decide) h)
  | object ((key, v) :: ms), _, hv, h =>
      .cons (by decide) (.append (plain_quote key) (.cons (by decide)
        (plain_write v hv.1 (plain_writeMembers ms hv.2 (.cons (by decide) h)))))

lemma plain_writeItems : ∀ (vs : List Value) {rest : List Char}, ItemsFitWords vs → Plain rest →
    Plain (writeItems vs rest)
  | [], _, _, h => h
  | v :: vs, _, hv, h => .cons (by decide) (plain_write v hv.1 (plain_writeItems vs hv.2 h))

lemma plain_writeMembers : ∀ (ms : List (String × Value)) {rest : List Char},
    MembersFitWords ms → Plain rest → Plain (writeMembers ms rest)
  | [], _, _, h => h
  | (key, v) :: ms, _, hv, h =>
      .cons (by decide) (.append (plain_quote key) (.cons (by decide)
        (plain_write v hv.1 (plain_writeMembers ms hv.2 h))))

end

/-- The compact text of a value has no control characters. -/
lemma plain_text {v : Value} (hv : v.FitsWords) : Plain v.text := plain_write v hv .nil

/-- The value that a text holds. -/
def ofText (source : String) : Except Refusal Value :=
  Reader.runAll (Reader.value Reader.maxLevels) source

/-- A value is read back from its compact text. -/
lemma ofText_compact {v : Value} (hv : v.FitsWords) (hdepth : v.depth ≤ Reader.maxLevels) :
    ofText v.compact = .ok v := by
  have hread : Reader.Takes (Input.Shows (v.tokens [])) (Reader.value Reader.maxLevels) v
      (Input.Shows []) := Reader.takes_value Reader.maxLevels hdepth fun t ht => by cases ht
  exact Reader.runAll_eq_ok (C := Eq) (.of_takes hread) (written_text hv)

end Value

end SheetCheck.Json
