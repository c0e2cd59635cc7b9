import SheetCheck.Proofs.Json.Reads
import SheetCheck.Proofs.Json.Spelling

/-!
# Inputs that show tokens

A reader meets its input as a row of tokens: `Shows ts` are the inputs whose text consists of the
tokens `ts`, and `At t ts` those that start with the first character of `t`, behind which `ts`
follow.  Looking for the next token leads from the former to the latter (`Reads.peekToken_bind`).
-/

namespace SheetCheck.Json

namespace Input

@[simp] lemma left_ofList (text : List Char) : (ofList text).left = Text.byteLength text := rfl

@[simp] lemma rest_ofList (text : List Char) : (ofList text).rest = text := rfl

lemma dropWhile_ofList (p : Char → Bool) (text : List Char) :
    dropWhile p text (Text.byteLength text) = ofList (text.dropWhile p) := by
  induction text with
  | nil => rfl
  | cons c text ih =>
      rw [dropWhile, List.dropWhile_cons]
      split
      · rw [← ih, Text.byteLength_cons, Nat.add_sub_cancel_left]
      · rfl

/-- The inputs whose text consists of some tokens. -/
def Shows (ts : List Token) (i : Input) : Prop := ∃ text, Laid ts text ∧ i = ofList text

/-- The inputs that start with the text of a token, behind which other tokens follow. -/
def At (t : Token) (ts : List Token) (i : Input) : Prop :=
  ∃ word text, t.Written word ∧ Laid ts text ∧ i = ofList (word ++ text)

lemma At.shows {t : Token} {ts : List Token} {i : Input} (h : At t ts i) : Shows (t :: ts) i := by
  obtain ⟨word, text, hword, htext, rfl⟩ := h
  exact ⟨word ++ text, .token hword htext, rfl⟩

lemma Shows.length_le {ts : List Token} {i : Input} (h : Shows ts i) : ts.length ≤ i.left := by
  obtain ⟨text, htext, rfl⟩ := h
  exact Nat.le_trans htext.length_le (Text.length_le_byteLength text)

end Input

namespace Reader

open Input

variable {α β : Type} {P R : Input → Prop} {E : Cause → Prop}

lemma advance_ofList_cons (c : Char) (text : List Char) :
    advance (ofList (c :: text)) = .ok () (ofList text) := by
  simp [advance, ofList]

lemma takeWhile_ofList (p : Char → Bool) (text : List Char) :
    takeWhile p (ofList text) = .ok (text.takeWhile p) (ofList (text.dropWhile p)) := by
  simp [takeWhile, dropWhile_ofList]

lemma peekToken_ofList (text : List Char) :
    peekToken (ofList text) =
      .ok (text.dropWhile isSpace).head? (ofList (text.dropWhile isSpace)) := by
  have hspace : skipSpace (ofList text) = .ok () (ofList (text.dropWhile isSpace)) := by
    simp [skipSpace, skipWhile, dropWhile_ofList]
  exact bind_ok hspace fun _ => peek

namespace Reads

variable {S : β → Input → Prop} {f : Option Char → Reader β} {t : Token} {ts : List Token}

/-- A reader that looks for a token first finds its first character. -/
lemma peekToken_bind (h : ∀ c, t.Starts c → Reads (At t ts) (f (some c)) S E) :
    Reads (Shows (t :: ts)) (peekToken >>= f) S E := by
  rintro _ ⟨text, htext, rfl⟩
  obtain ⟨word, rest, hdrop, hword, hrest⟩ := htext.dropWhile_isSpace
  obtain ⟨c, tail, rfl, hstart⟩ := hword.starts
  rw [bind_ok (peekToken_ofList text), hdrop]
  exact h c hstart (ofList (c :: tail ++ rest)) ⟨c :: tail, rest, hword, hrest, rfl⟩

/-- At the end of a text no token is found. -/
lemma peekToken_bind_nil (h : Reads (Shows []) (f none) S E) :
    Reads (Shows []) (peekToken >>= f) S E := by
  rintro _ ⟨text, htext, rfl⟩
  rw [bind_ok (peekToken_ofList text), htext.dropWhile_isSpace_eq_nil]
  exact h (ofList []) ⟨[], .done, rfl⟩

end Reads

lemma takes_advance_mark (m : Mark) (ts : List Token) :
    Takes (At (.mark m) ts) advance () (Shows ts) := by
  rintro _ ⟨word, text, hword, htext, rfl⟩
  cases hword
  rw [List.singleton_append, advance_ofList_cons]
  exact ⟨rfl, text, htext, rfl⟩

lemma run_of_agrees {C : Cause → Cause → Prop} {r : Reader α} {x : Except Cause α}
    {text : List Char} (h : Agrees C P r x R) (htext : P (ofList text)) :
    match run r (String.ofList text) with
    | .ok a => x = .ok a
    | .error refusal => ∃ c, x = .error c ∧ C c refusal.cause := by
  have hread := h (ofList text) htext
  rw [run, String.toList_ofList]
  cases hr : r (ofList text) with
  | ok a j =>
      simp only [hr] at hread ⊢
      exact hread.1
  | error f j =>
      simp only [hr] at hread ⊢
      exact hread

/-- A reader that reads all tokens of a text reads the text. -/
lemma runAll_of_agrees {C : Cause → Cause → Prop} {r : Reader α} {x : Except Cause α}
    {ts : List Token} {text : List Char} (h : Agrees C (Shows ts) r x (Shows []))
    (htext : Laid ts text) :
    match runAll r (String.ofList text) with
    | .ok a => x = .ok a
    | .error refusal => ∃ c, x = .error c ∧ C c refusal.cause := by
  have hall {atEnd : α → Reader α} (hend : ∀ a, Takes (Shows []) (atEnd a) a (Shows [])) :
      Agrees C (Shows ts) (r >>= atEnd) x (Shows []) := by
    have hbind := Agrees.bind h fun a _ => Agrees.of_takes (hend a)
    rwa [show x >>= (fun a => Except.ok a) = x from bind_pure x] at hbind
  rw [runAll]
  refine run_of_agrees (hall fun a => ?_) ⟨text, htext, rfl⟩
  exact Reads.peekToken_bind_nil (Reads.pure fun _ hi => ⟨rfl, hi⟩)

section RunAll

variable {C : Cause → Cause → Prop} {r : Reader α} {ts : List Token} {text : List Char}

lemma runAll_eq_ok {a : α} (h : Agrees C (Shows ts) r (.ok a) (Shows [])) (htext : Laid ts text) :
    runAll r (String.ofList text) = .ok a := by
  have hrun := runAll_of_agrees h htext
  cases hr : runAll r (String.ofList text) with
  | ok b =>
      simp only [hr] at hrun
      rw [Except.ok.inj hrun]
  | error refusal =>
      simp only [hr] at hrun
      obtain ⟨c, hc, -⟩ := hrun
      cases hc

lemma runAll_eq_error {c : Cause} (h : Agrees C (Shows ts) r (.error c) (Shows []))
    (htext : Laid ts text) :
    ∃ refusal, runAll r (String.ofList text) = .error refusal ∧ C c refusal.cause := by
  have hrun := runAll_of_agrees h htext
  cases hr : runAll r (String.ofList text) with
  | ok b =>
      simp only [hr] at hrun
      cases hrun
  | error refusal =>
      simp only [hr] at hrun
      obtain ⟨c', hc, hcause⟩ := hrun
      exact ⟨refusal, rfl, Except.error.inj hc ▸ hcause⟩

end RunAll

end Reader

end SheetCheck.Json
