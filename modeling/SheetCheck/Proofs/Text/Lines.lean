import Mathlib.Data.List.DropRight
import SheetCheck.Text.Lines

/-!
# Where the lines of a text lie

`IsLine` says which characters make up the first line of a text: they end with the only line feed
among them, or they are all that is left and have none.  `LineAt` puts such a line behind a front
that ends with a line feed and holds one for each line before.  The main results are

* `lineSpan_eq_some_iff`: a span is found exactly for the lines of `LineAt`.  It begins where the
  front ends, and it is as long as the line without the line feed and the carriage returns at its
  end;
* `exists_lineAt_iff`: there is a line for each number from one to the number of lines;
* `LineAt.exists_covered`: a span that is made one byte long where it was empty still ends behind
  a character of the line;
* `LineAt.byteLength_le`: a line ends before the lines with greater numbers begin.

The offset of a span counts bytes.  `isValid_byteLength` says that it falls between characters.
-/

namespace SheetCheck.Text

variable {cs front line back rest front' line' back' : List Char} {n n' : ℕ}

/-! ### Lines -/

/-- Whether a line may begin behind a text: after a line feed, or before everything. -/
def atLineStart (front : List Char) : Bool :=
  front.getLast?.all (· == '\n')

/-- The number of lines of a text: one for each line feed, and one more when characters follow the
last of them. -/
def lineCount (cs : List Char) : ℕ :=
  cs.count '\n' + if atLineStart cs then 0 else 1

/-- A line without the characters that end it. -/
def shown (line : List Char) : List Char :=
  line.rdropWhile fun c => c == '\n' || c == '\r'

/-- The characters `line` are the first line of a text, and `back` is what follows. -/
inductive IsLine : List Char → List Char → Prop
  | ended (init back : List Char) (h : '\n' ∉ init) : IsLine (init ++ ['\n']) back
  | last (line : List Char) (hne : line ≠ []) (h : '\n' ∉ line) : IsLine line []

/-- The characters `line` are the line with the number `n` of a text, counted from one.  They stand
behind `front` and before `back`. -/
structure LineAt (text : List Char) (n : ℕ) (front line back : List Char) : Prop where
  text_eq : text = front ++ (line ++ back)
  number : front.count '\n' + 1 = n
  begins : atLineStart front = true
  isLine : IsLine line back

@[simp] lemma atLineStart_nil : atLineStart [] = true := rfl

@[simp] lemma atLineStart_concat (front : List Char) (c : Char) :
    atLineStart (front ++ [c]) = (c == '\n') := by
  simp [atLineStart]

/-- A line begins at the start of the text or right after a line feed. -/
lemma atLineStart_iff :
    atLineStart front = true ↔ front = [] ∨ ∃ init, front = init ++ ['\n'] := by
  rcases List.eq_nil_or_concat front with rfl | ⟨init, c, rfl⟩
  · simp
  · simp [List.concat_eq_append]

lemma atLineStart_cons (c : Char) (front : List Char) :
    atLineStart (c :: front) = if front = [] then c == '\n' else atLineStart front := by
  rcases List.eq_nil_or_concat front with rfl | ⟨init, d, rfl⟩
  · exact atLineStart_concat [] c
  · rw [List.concat_eq_append, ← List.cons_append, atLineStart_concat, atLineStart_concat,
      if_neg (by simp)]

/-- Before a front with a line feed a character more makes no difference. -/
lemma atLineStart_cons_of_count_ne_zero {c : Char} (h : (c :: front).count '\n' ≠ 0) :
    atLineStart (c :: front) = atLineStart front := by
  rw [atLineStart_cons]
  split
  · next hfront =>
      subst hfront
      have hc : '\n' = c := List.mem_singleton.1 (List.count_pos_iff.1 (Nat.pos_of_ne_zero h))
      rw [← hc]
      rfl
  · rfl

lemma count_cons_eq_iff {c : Char} (hn : n ≠ 0) :
    (c :: front).count '\n' = n ↔ front.count '\n' = if c = '\n' then n - 1 else n := by
  by_cases hc : c = '\n'
  · rw [if_pos hc, hc, List.count_cons_self]
    omega
  · rw [if_neg hc, List.count_cons_of_ne hc]

lemma eq_nil_of_count_eq_zero (h : atLineStart front = true) (hcount : front.count '\n' = 0) :
    front = [] := by
  obtain rfl | ⟨init, rfl⟩ := atLineStart_iff.1 h
  · rfl
  · rw [List.count_append, List.count_singleton_self] at hcount
    omega

/-! ### The start of a line -/

lemma afterLines_zero_eq_some_iff {offset o : ℕ} :
    afterLines 0 offset cs = some (o, rest) ↔
      ∃ front, cs = front ++ rest ∧ front.count '\n' = 0 ∧ atLineStart front = true ∧
        o = offset + byteLength front := by
  have hzero : afterLines 0 offset cs = some (offset, cs) := by cases cs <;> rfl
  rw [hzero]
  constructor
  · intro h
    obtain ⟨rfl, rfl⟩ := Prod.mk.inj (Option.some.inj h)
    exact ⟨[], rfl, rfl, rfl, rfl⟩
  · rintro ⟨front, rfl, hcount, hstart, rfl⟩
    -- a line may begin behind a line feed only, and the front has none
    obtain rfl := eq_nil_of_count_eq_zero hstart hcount
    rfl

/-- What follows `n` line feeds stands behind a front with as many, where a line may begin. -/
theorem afterLines_eq_some_iff {offset o : ℕ} :
    afterLines n offset cs = some (o, rest) ↔
      ∃ front, cs = front ++ rest ∧ front.count '\n' = n ∧ atLineStart front = true ∧
        o = offset + byteLength front := by
  induction cs generalizing n offset with
  | nil =>
      rcases Nat.eq_zero_or_pos n with rfl | hn
      · exact afterLines_zero_eq_some_iff
      · rw [afterLines, if_neg hn.ne']
        constructor
        · exact fun h => absurd h (by simp)
        · rintro ⟨front, heq, hcount, -, -⟩
          obtain ⟨rfl, -⟩ := List.append_eq_nil_iff.1 heq.symm
          exact absurd hcount.symm hn.ne'
  | cons c cs ih =>
      rcases Nat.eq_zero_or_pos n with rfl | hn
      · exact afterLines_zero_eq_some_iff
      · -- the front for what is left of the text, with or without this character before it
        rw [afterLines, if_neg hn.ne', ih]
        constructor
        · rintro ⟨front, rfl, hcount, hstart, rfl⟩
          have hcount := (count_cons_eq_iff hn.ne').2 hcount
          refine ⟨c :: front, rfl, hcount, ?_, ?_⟩
          · rw [atLineStart_cons_of_count_ne_zero (hcount ▸ hn.ne'), hstart]
          · rw [byteLength_cons, Nat.add_assoc]
        · rintro ⟨front, heq, hcount, hstart, rfl⟩
          cases front with
          | nil => exact absurd hcount.symm hn.ne'
          | cons d front =>
              obtain ⟨rfl, rfl⟩ := List.cons.inj heq
              rw [atLineStart_cons_of_count_ne_zero (hcount ▸ hn.ne')] at hstart
              refine ⟨front, rfl, (count_cons_eq_iff hn.ne').1 hcount, hstart, ?_⟩
              rw [byteLength_cons, Nat.add_assoc]

/-! ### The end of a line -/

/-- What is left of a text begins with a line. -/
lemma exists_isLine (h : rest ≠ []) : ∃ line back, rest = line ++ back ∧ IsLine line back := by
  by_cases hfeed : '\n' ∈ rest
  · obtain ⟨init, back, rfl, hinit⟩ := List.eq_append_cons_of_mem hfeed
    exact ⟨init ++ ['\n'], back, by simp, .ended init back hinit⟩
  · exact ⟨rest, [], by simp, .last rest h hfeed⟩

lemma IsLine.ne_nil (h : IsLine line back) : line ≠ [] := by
  cases h with
  | ended init _ _ => simp
  | last _ hne _ => exact hne

/-- Where there is no line feed, only carriage returns can end a line. -/
lemma shown_of_not_mem (h : '\n' ∉ line) :
    shown line = line.rdropWhile (fun c => decide (c = '\r')) := by
  induction line using List.reverseRecOn with
  | nil => rfl
  | append_singleton line c ih =>
      obtain ⟨hline, hc⟩ := not_or.1 (mt List.mem_append.2 h)
      have hc : c ≠ '\n' := fun heq => hc (List.mem_singleton.2 heq.symm)
      rw [shown, List.rdropWhile_concat, List.rdropWhile_concat, ← shown, ih hline]
      simp [hc]

lemma shown_concat_feed (init : List Char) : shown (init ++ ['\n']) = shown init :=
  List.rdropWhile_concat_pos _ _ _ rfl

/-- The part that is shown of the first line of a text depends on that line only. -/
lemma IsLine.lineContent_append (h : IsLine line back) :
    lineContent (line ++ back) = shown line := by
  cases h with
  | ended init back hinit =>
      rw [shown_concat_feed, shown_of_not_mem hinit, lineContent, List.append_assoc,
        List.takeWhile_append_of_pos fun c hc => decide_eq_true (ne_of_mem_of_not_mem hc hinit)]
      simp [List.rdropWhile]
  | last line _ hline =>
      rw [shown_of_not_mem hline, lineContent, List.append_nil,
        List.takeWhile_eq_self_iff.2 fun c hc => decide_eq_true (ne_of_mem_of_not_mem hc hline)]
      rfl

/-- **A span is found exactly for the lines of a text.** -/
theorem lineSpan_eq_some_iff {s : Span} :
    lineSpan cs n = some s ↔
      ∃ front line back, LineAt cs n front line back ∧
        s = ⟨byteLength front, byteLength (shown line)⟩ := by
  rw [lineSpan]
  constructor
  · intro h
    by_cases hn : n = 0
    · rw [if_pos hn] at h
      exact absurd h (by simp)
    · rw [if_neg hn] at h
      -- where nothing is left behind the line feeds, there is no line and no span
      split at h
      · next offset c rest hafter =>
          obtain ⟨front, rfl, hcount, hstart, rfl⟩ := afterLines_eq_some_iff.1 hafter
          obtain ⟨line, back, heq, hline⟩ := exists_isLine (List.cons_ne_nil c rest)
          refine ⟨front, line, back, ⟨by rw [heq], by omega, hstart, hline⟩, ?_⟩
          rw [← Option.some.inj h, Nat.zero_add, heq, hline.lineContent_append]
      · exact absurd h (by simp)
  · rintro ⟨front, line, back, ⟨rfl, rfl, hstart, hline⟩, rfl⟩
    obtain ⟨c, rest, heq⟩ := List.exists_cons_of_ne_nil
      (List.append_ne_nil_of_left_ne_nil hline.ne_nil back)
    have hafter : afterLines (front.count '\n') 0 (front ++ (line ++ back)) =
        some (byteLength front, c :: rest) :=
      afterLines_eq_some_iff.2 ⟨front, by rw [heq], rfl, hstart, (Nat.zero_add _).symm⟩
    rw [if_neg (Nat.succ_ne_zero _), Nat.add_sub_cancel, hafter]
    show some (⟨byteLength front, byteLength (lineContent (c :: rest))⟩ : Span) = _
    rw [← heq, hline.lineContent_append]

/-! ### The number of lines -/

lemma lineCount_cons (c : Char) (cs : List Char) :
    lineCount (c :: cs) =
      if c = '\n' then lineCount cs + 1 else if cs = [] then 1 else lineCount cs := by
  rw [lineCount, lineCount, List.count_cons, atLineStart_cons]
  by_cases hc : c = '\n' <;> by_cases hcs : cs = [] <;> simp [hc, hcs]
  omega

/-- Behind fewer line feeds than it has lines a text goes on. -/
lemma exists_front_of_lt (h : n < lineCount cs) :
    ∃ front rest, cs = front ++ rest ∧ rest ≠ [] ∧ front.count '\n' = n ∧
      atLineStart front = true := by
  induction cs generalizing n with
  | nil => exact absurd h (Nat.not_lt_zero n)
  | cons c cs ih =>
      cases n with
      | zero => exact ⟨[], c :: cs, rfl, List.cons_ne_nil c cs, rfl, rfl⟩
      | succ n =>
          rw [lineCount_cons] at h
          -- behind a line feed one line less is to be passed
          have hlt : (if c = '\n' then n else n + 1) < lineCount cs := by
            split at h
            · next hc => rw [if_pos hc]; omega
            · next hc =>
                rw [if_neg hc]
                split at h <;> omega
          obtain ⟨front, rest, rfl, hrest, hcount, hstart⟩ := ih hlt
          have hcount := (count_cons_eq_iff (Nat.succ_ne_zero n)).2 hcount
          refine ⟨c :: front, rest, rfl, hrest, hcount, ?_⟩
          rw [atLineStart_cons_of_count_ne_zero (hcount ▸ Nat.succ_ne_zero n), hstart]

/-- **The lines of a text have the numbers from one to their number.** -/
theorem exists_lineAt_iff :
    (∃ front line back, LineAt cs n front line back) ↔ 1 ≤ n ∧ n ≤ lineCount cs := by
  constructor
  · rintro ⟨front, line, back, rfl, rfl, -, hline⟩
    refine ⟨Nat.le_add_left 1 _, ?_⟩
    cases hline with
    | ended init back _ =>
        simp only [lineCount, List.count_append, List.count_singleton_self]
        omega
    | last line hne hfeed =>
        obtain ⟨init, c, rfl⟩ := (List.eq_nil_or_concat line).resolve_left hne
        rw [List.concat_eq_append] at hfeed ⊢
        have hc : (c == '\n') = false :=
          beq_eq_false_iff_ne.2 fun h => hfeed (by rw [h]; simp)
        rw [lineCount, List.append_nil, ← List.append_assoc, atLineStart_concat, hc,
          List.append_assoc, List.count_append, if_neg Bool.false_ne_true]
        omega
  · rintro ⟨hpos, hle⟩
    have hlt : n - 1 < lineCount cs := by omega
    obtain ⟨front, rest, rfl, hrest, hcount, hstart⟩ := exists_front_of_lt hlt
    obtain ⟨line, back, rfl, hline⟩ := exists_isLine hrest
    exact ⟨front, line, back, rfl, by omega, hstart, hline⟩

/-! ### What a mark covers -/

lemma IsLine.not_mem_shown (h : IsLine line back) : '\n' ∉ shown line := by
  cases h with
  | ended init _ hinit =>
      rw [shown_concat_feed]
      exact fun hmem => hinit ((List.rdropWhile_prefix _ init).subset hmem)
  | last _ _ hline => exact fun hmem => hline ((List.rdropWhile_prefix _ line).subset hmem)

/-- A mark covers what is shown of a line, or the first character of a line of which nothing is
shown, which takes one byte. -/
lemma IsLine.exists_covered (h : IsLine line back) :
    ∃ covered left, line = covered ++ left ∧
      byteLength covered = max (byteLength (shown line)) 1 ∧
      (shown line ≠ [] → '\n' ∉ covered) := by
  by_cases hshown : shown line = []
  · -- every character of the line is one of those that end lines, so the first one is
    obtain ⟨c, left, rfl⟩ := List.exists_cons_of_ne_nil h.ne_nil
    have hc : (c == '\n' || c == '\r') = true :=
      List.rdropWhile_eq_nil_iff.1 hshown c List.mem_cons_self
    refine ⟨[c], left, rfl, ?_, fun hne => absurd hshown hne⟩
    rw [hshown]
    obtain hc | hc := Bool.or_eq_true_iff.1 hc <;> rw [beq_iff_eq.1 hc] <;> rfl
  · obtain ⟨left, hleft⟩ := List.rdropWhile_prefix (fun c => c == '\n' || c == '\r') line
    refine ⟨shown line, left, hleft.symm, ?_, fun _ => h.not_mem_shown⟩
    have hpos := length_le_byteLength (shown line)
    have hlen := List.length_pos_iff.2 hshown
    omega

/-- A line ends before the lines with greater numbers begin. -/
theorem LineAt.byteLength_le (h : LineAt cs n front line back)
    (h' : LineAt cs n' front' line' back') (hlt : n < n') :
    byteLength front + byteLength line ≤ byteLength front' := by
  have hprefix : front ++ line <+: front' := by
    have hcs : front ++ line <+: cs := ⟨back, by rw [h.text_eq, List.append_assoc]⟩
    have hcs' : front' <+: cs := ⟨line' ++ back', h'.text_eq.symm⟩
    obtain hle | hge := List.prefix_or_prefix_of_prefix hcs hcs'
    · exact hle
    · -- then the line feeds of the greater front all lie in the lesser one and the line
      have hcount := h.number
      have hcount' := h'.number
      cases h.isLine with
      | ended init _ hinit =>
          rw [← List.append_assoc] at hge ⊢
          obtain heq | hinner := List.prefix_concat_iff.1 hge
          · exact heq ▸ List.prefix_rfl
          · have hfewer := hinner.sublist.count_le '\n'
            rw [List.count_append, List.count_eq_zero_of_not_mem hinit] at hfewer
            omega
      | last _ _ hline =>
          have hfewer := hge.sublist.count_le '\n'
          rw [List.count_append, List.count_eq_zero_of_not_mem hline] at hfewer
          omega
  obtain ⟨left, rfl⟩ := hprefix
  rw [byteLength_append, byteLength_append]
  exact Nat.le_add_right _ _

/-! ### Bytes and characters -/

lemma utf8ByteSize_ofList (cs : List Char) : (String.ofList cs).utf8ByteSize = byteLength cs := by
  induction cs with
  | nil => rfl
  | cons c cs ih =>
      rw [← List.singleton_append, String.ofList_append, String.utf8ByteSize_append, ih,
        ← String.singleton_eq_ofList, String.utf8ByteSize_singleton, List.singleton_append,
        byteLength_cons]

/-- The number of bytes before a place between two characters of a text is a place of the text. -/
lemma isValid_byteLength {text : String} (h : text.toList = front ++ rest) :
    (⟨byteLength front⟩ : String.Pos.Raw).IsValid text := by
  refine String.Pos.Raw.isValid_iff_exists_append.2 ⟨.ofList front, .ofList rest, ?_, ?_⟩
  · rw [← String.ofList_append, ← h, String.ofList_toList]
  · rw [String.Pos.Raw.ext_iff]
    exact (utf8ByteSize_ofList front).symm

end SheetCheck.Text
