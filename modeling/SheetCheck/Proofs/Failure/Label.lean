import SheetCheck.Failure.Excerpt
import SheetCheck.Proofs.Text.Lines

/-!
# Where a label lies

An excerpt has at most one mark.  `Text.MarksLine` says what it is to mark a line of a text: where
the mark begins, how long it is, that it begins and ends between characters of the text, and that
it does not run over the end of its line unless nothing of the line is shown.

`Failure.label?_geometry` says of every failure, however it came about, when it has a label, that
the label marks the line of the first frame, and that the labels for different lines of a source
follow each other like the lines.
-/

namespace SheetCheck

namespace Text

/-- A span marks the line with the number `n` of a text. -/
structure MarksLine (text : String) (n : ℕ) (span : Span) : Prop where
  /-- The span begins with the text, or right after the line feed that ends the line before. -/
  begins : (n = 1 ∧ span.offset = 0) ∨ ∃ before after, text.toList = before ++ '\n' :: after ∧
    before.count '\n' + 2 = n ∧ span.offset = byteLength before + 1
  /-- It begins where the line does, is as long as what is shown of the line, if that is anything,
  and covers characters of the line. -/
  covers : ∃ front line back covered left, LineAt text.toList n front line back ∧
    line = covered ++ left ∧ span.offset = byteLength front ∧
    span.length = byteLength covered ∧ span.length = max (byteLength (shown line)) 1 ∧
    (shown line ≠ [] → '\n' ∉ covered)
  start_valid : (⟨span.offset⟩ : String.Pos.Raw).IsValid text
  stop_valid : (⟨span.offset + span.length⟩ : String.Pos.Raw).IsValid text
  within : span.offset + span.length ≤ text.utf8ByteSize

/-- The first line begins with the text, and any other behind a line feed. -/
lemma LineAt.begins_with {cs front line back : List Char} {n : ℕ}
    (h : LineAt cs n front line back) :
    (n = 1 ∧ byteLength front = 0) ∨ ∃ before after, cs = before ++ '\n' :: after ∧
      before.count '\n' + 2 = n ∧ byteLength front = byteLength before + 1 := by
  have hnumber := h.number
  obtain rfl | ⟨before, rfl⟩ := atLineStart_iff.1 h.begins
  · exact Or.inl ⟨hnumber.symm, rfl⟩
  · refine Or.inr ⟨before, line ++ back, ?_, ?_, ?_⟩
    · rw [h.text_eq, List.append_assoc, List.singleton_append]
    · rw [List.count_append, List.count_singleton_self] at hnumber
      exact hnumber
    · rw [byteLength_append]
      rfl

end Text

open Text

variable {t : Template} {n n' : UInt64} {span span' : Span}

lemma Template.mark?_eq_some_iff :
    t.mark? n = some span ↔
      ∃ front line back, LineAt t.text.toList n.toNat front line back ∧
        span = ⟨byteLength front, max (byteLength (shown line)) 1⟩ := by
  rw [mark?, Option.map_eq_some_iff]
  constructor
  · rintro ⟨s, hs, rfl⟩
    obtain ⟨front, line, back, hline, rfl⟩ := lineSpan_eq_some_iff.1 hs
    exact ⟨front, line, back, hline, rfl⟩
  · rintro ⟨front, line, back, hline, rfl⟩
    exact ⟨_, lineSpan_eq_some_iff.2 ⟨front, line, back, hline, rfl⟩, rfl⟩

/-- A line is marked exactly if the source has it. -/
lemma Template.isSome_mark?_iff :
    (t.mark? n).isSome = true ↔ 1 ≤ n.toNat ∧ n.toNat ≤ lineCount t.text.toList := by
  rw [← exists_lineAt_iff, Option.isSome_iff_exists]
  simp only [mark?_eq_some_iff]
  constructor
  · rintro ⟨-, front, line, back, hline, -⟩
    exact ⟨front, line, back, hline⟩
  · rintro ⟨front, line, back, hline⟩
    exact ⟨_, front, line, back, hline, rfl⟩

lemma Template.marksLine_of_mark? (h : t.mark? n = some span) :
    MarksLine t.text n.toNat span := by
  obtain ⟨front, line, back, hline, rfl⟩ := mark?_eq_some_iff.1 h
  obtain ⟨covered, left, rfl, hcovered, hfeed⟩ := hline.isLine.exists_covered
  -- both ends of the mark cut the characters of the text in two
  have hstart : t.text.toList = front ++ ((covered ++ left) ++ back) := hline.text_eq
  have hstop : t.text.toList = (front ++ covered) ++ (left ++ back) := by
    rw [hstart]
    simp only [List.append_assoc]
  have hvalid := isValid_byteLength hstop
  rw [byteLength_append, hcovered] at hvalid
  exact
    { begins := hline.begins_with
      covers := ⟨front, _, back, covered, left, hline, rfl, rfl, hcovered.symm, rfl, hfeed⟩
      start_valid := isValid_byteLength hstart
      stop_valid := hvalid
      within := hvalid.le_utf8ByteSize }

/-- The mark for a line ends before the mark for a line further down begins. -/
lemma Template.mark?_disjoint (h : t.mark? n = some span) (h' : t.mark? n' = some span')
    (hlt : n < n') : span.offset + span.length ≤ span'.offset := by
  obtain ⟨front, line, back, hline, rfl⟩ := mark?_eq_some_iff.1 h
  obtain ⟨front', line', back', hline', rfl⟩ := mark?_eq_some_iff.1 h'
  obtain ⟨covered, left, rfl, hcovered, -⟩ := hline.isLine.exists_covered
  calc byteLength front + max (byteLength (shown (covered ++ left))) 1
      = byteLength front + byteLength covered := by rw [hcovered]
    _ ≤ byteLength front + byteLength (covered ++ left) := by
        rw [byteLength_append]
        omega
    _ ≤ byteLength front' := hline.byteLength_le hline' (UInt64.lt_iff_toNat_lt.1 hlt)

namespace Failure

lemma excerpt?_eq_some_iff {e : Failure} :
    e.excerpt? = some (t, n) ↔
      e.template = some t ∧ e.origin.filename = t.filename ∧ e.origin.line = some n := by
  obtain ⟨message, rule, ⟨file, line⟩, imports, template⟩ := e
  cases template with
  | none => simp [excerpt?]
  | some s =>
      cases line with
      | none => simp [excerpt?]
      | some m =>
          by_cases hfile : file = s.filename
          · simp only [excerpt?, if_pos hfile]
            constructor
            · intro h
              obtain ⟨rfl, rfl⟩ := Prod.mk.inj (Option.some.inj h)
              exact ⟨rfl, hfile, rfl⟩
            · rintro ⟨hs, -, hm⟩
              rw [Option.some.inj hs, Option.some.inj hm]
          · simp only [excerpt?, if_neg hfile]
            constructor
            · exact fun h => absurd h (by simp)
            · rintro ⟨hs, heq, -⟩
              exact absurd (Option.some.inj hs ▸ heq) hfile

/-- A label is the mark for the line of the first frame, in the source of the file of that
frame. -/
lemma label?_eq_some_iff {e : Failure} {l : Label} :
    e.label? = some l ↔
      ∃ t n, e.template = some t ∧ e.origin.filename = t.filename ∧ e.origin.line = some n ∧
        t.mark? n = some l.span ∧ l.text = String.ofList (firstLine e.message.toList) := by
  rw [label?, Option.bind_eq_some_iff]
  constructor
  · rintro ⟨⟨t, n⟩, hexcerpt, hl⟩
    obtain ⟨span, hspan, rfl⟩ := Option.map_eq_some_iff.1 hl
    obtain ⟨ht, hfile, hn⟩ := excerpt?_eq_some_iff.1 hexcerpt
    exact ⟨t, n, ht, hfile, hn, hspan, rfl⟩
  · rintro ⟨t, n, ht, hfile, hn, hspan, htext⟩
    refine ⟨(t, n), excerpt?_eq_some_iff.2 ⟨ht, hfile, hn⟩, ?_⟩
    exact Option.map_eq_some_iff.2 ⟨l.span, hspan, by rw [← htext]⟩

/-- **Where the label of a failure lies.**  There is one exactly if the first frame lies in the
file of the source and tells a line that the source has.  It marks that line, and it ends before
the labels for the lines further down begin. -/
theorem label?_geometry (e : Failure) :
    (e.label?.isSome = true ↔
      ∃ t n, e.template = some t ∧ e.origin.filename = t.filename ∧ e.origin.line = some n ∧
        1 ≤ n.toNat ∧ n.toNat ≤ lineCount t.text.toList) ∧
    (∀ l, e.label? = some l →
      ∃ t n, e.template = some t ∧ e.origin.line = some n ∧ MarksLine t.text n.toNat l.span) ∧
    (∀ (e' : Failure) (l l' : Label) (n n' : UInt64), e'.template = e.template →
      e.label? = some l → e'.label? = some l' → e.origin.line = some n →
      e'.origin.line = some n' → n < n' → l.span.offset + l.span.length ≤ l'.span.offset) := by
  refine ⟨?_, ?_, ?_⟩
  · rw [Option.isSome_iff_exists]
    simp only [label?_eq_some_iff]
    constructor
    · rintro ⟨l, t, n, ht, hfile, hn, hspan, -⟩
      exact ⟨t, n, ht, hfile, hn, t.isSome_mark?_iff.1 (Option.isSome_iff_exists.2 ⟨_, hspan⟩)⟩
    · rintro ⟨t, n, ht, hfile, hn, hline⟩
      obtain ⟨span, hspan⟩ := Option.isSome_iff_exists.1 (t.isSome_mark?_iff.2 hline)
      exact ⟨⟨_, span⟩, t, n, ht, hfile, hn, hspan, rfl⟩
  · intro l hl
    obtain ⟨t, n, ht, -, hn, hspan, -⟩ := label?_eq_some_iff.1 hl
    exact ⟨t, n, ht, hn, t.marksLine_of_mark? hspan⟩
  · intro e' l l' n n' htemplate hl hl' hn hn' hlt
    obtain ⟨t, m, ht, -, hm, hspan, -⟩ := label?_eq_some_iff.1 hl
    obtain ⟨t', m', ht', -, hm', hspan', -⟩ := label?_eq_some_iff.1 hl'
    obtain rfl : t' = t := Option.some.inj (ht'.symm.trans (htemplate.trans ht))
    obtain rfl : m = n := Option.some.inj (hm.symm.trans hn)
    obtain rfl : m' = n' := Option.some.inj (hm'.symm.trans hn')
    exact Template.mark?_disjoint hspan hspan' hlt

/-- A failure in a source of three lines: a letter of two bytes, a blank line, and a carriage
return behind which the text ends. -/
def besideBlankLines (line : UInt64) : Failure :=
  { new "stray" with origin := ⟨none, some line⟩, template := some ⟨none, "é\r\n\n\r"⟩ }

/-- Of the second and the third line nothing is shown, and each has a mark of one byte. -/
theorem label?_geometry_blankLines :
    (∃ l l', (besideBlankLines 2).label? = some l ∧ (besideBlankLines 3).label? = some l' ∧
      MarksLine "é\r\n\n\r" 2 l.span ∧ l.span.offset + l.span.length ≤ l'.span.offset) ∧
    (besideBlankLines 4).label?.isSome = false := by
  obtain ⟨-, hmarks, hdisjoint⟩ := label?_geometry (besideBlankLines 2)
  have hsecond : (besideBlankLines 2).label? = some ⟨"stray", 4, 1⟩ := by decide
  have hthird : (besideBlankLines 3).label? = some ⟨"stray", 5, 1⟩ := by decide
  refine ⟨⟨_, _, hsecond, hthird, ?_, ?_⟩, ?_⟩
  · obtain ⟨t, n, ht, hn, hline⟩ := hmarks _ hsecond
    obtain rfl := Option.some.inj ht
    obtain rfl := Option.some.inj hn
    exact hline
  · exact hdisjoint (besideBlankLines 3) _ _ 2 3 rfl hsecond hthird rfl rfl (by decide)
  · decide

end Failure

end SheetCheck
