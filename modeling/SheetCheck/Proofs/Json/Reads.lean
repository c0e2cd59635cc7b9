import Mathlib.Data.List.Basic
import SheetCheck.Json.Reader.Basic

/-!
# What a reader does with its input

`Reads P r Q E` says what the reader `r` does with inputs in `P`: it answers some `a` and leaves an
input in `Q a`, or it stops for a cause in `E`.  Each reader gets one such statement, and a reader
that is put together from others gets its own from theirs by the rules here.

A loop is described by what holds before every step, its invariant.  It may mention a *ghost*, say
the items still to come, whose size falls with every step.  Since the size is never greater than the
number of bytes to come, the steps that `repeatStep` allows are enough (`Reads.repeatStep`), and no
other proof counts them.

Where the answer of a reader is that of a function without any text, `Agrees` says so.
-/

namespace SheetCheck.Json.Reader

variable {α β σ : Type} {P P' R : Input → Prop} {E E' : Cause → Prop}

/-- On inputs in `P` the reader answers some `a` and leaves an input in `Q a`, or it stops for a
cause in `E`. -/
def Reads (P : Input → Prop) (r : Reader α) (Q : α → Input → Prop) (E : Cause → Prop) : Prop :=
  ∀ i, P i →
    match r i with
    | .ok a j => Q a j
    | .error f _ => E f.cause

/-- On inputs in `P` the reader answers `a` and leaves an input in `R`. -/
abbrev Takes (P : Input → Prop) (r : Reader α) (a : α) (R : Input → Prop) : Prop :=
  Reads P r (fun b j => b = a ∧ R j) fun _ => False

/-- On inputs in `P` the reader stops. -/
abbrev Stops (P : Input → Prop) (r : Reader α) (E : Cause → Prop) : Prop :=
  Reads P r (fun _ _ => False) E

lemma bind_ok {r : Reader α} {i j : Input} {a : α} (h : r i = .ok a j) (f : α → Reader β) :
    (r >>= f) i = f a j := by
  change EStateM.bind r f i = f a j
  rw [EStateM.bind, h]

lemma bind_error {r : Reader α} {i j : Input} {g : Fault} (h : r i = .error g j)
    (f : α → Reader β) : (r >>= f) i = .error g j := by
  change EStateM.bind r f i = .error g j
  rw [EStateM.bind, h]

namespace Reads

variable {r : Reader α} {Q Q' : α → Input → Prop} {S : β → Input → Prop}

lemma mono (h : Reads P r Q E) (hP : ∀ i, P' i → P i) (hQ : ∀ a i, Q a i → Q' a i)
    (hE : ∀ c, E c → E' c) : Reads P' r Q' E' := by
  intro i hi
  have hr := h i (hP i hi)
  cases hri : r i with
  | ok a j => simp only [hri] at hr; exact hQ a j hr
  | error f j => simp only [hri] at hr; exact hE _ hr

lemma pre (h : Reads P r Q E) (hP : ∀ i, P' i → P i) : Reads P' r Q E :=
  h.mono hP (fun _ _ hq => hq) fun _ he => he

lemma post (h : Reads P r Q E) (hQ : ∀ a i, Q a i → Q' a i) : Reads P r Q' E :=
  h.mono (fun _ hi => hi) hQ fun _ he => he

lemma exists_pre {ι : Type} {I : ι → Input → Prop} (h : ∀ x, Reads (I x) r Q E) :
    Reads (fun i => ∃ x, I x i) r Q E :=
  fun i ⟨x, hi⟩ => h x i hi

lemma and_pre {p : Prop} (h : p → Reads P r Q E) : Reads (fun i => p ∧ P i) r Q E :=
  fun i ⟨hp, hi⟩ => h hp i hi

lemma trivial : Reads P r (fun _ _ => True) fun _ => True := by
  intro i _
  cases r i <;> exact True.intro

lemma false_pre : Reads (fun _ => False) r Q E := fun _ hi => hi.elim

lemma pure {a : α} (h : ∀ i, P i → Q a i) : Reads P (Pure.pure a) Q E := h

lemma bind {f : α → Reader β} (h : Reads P r Q E) (hf : ∀ a, Reads (Q a) (f a) S E) :
    Reads P (r >>= f) S E := by
  intro i hi
  have hr := h i hi
  cases hri : r i with
  | ok a j =>
      simp only [hri] at hr
      rw [bind_ok hri]
      exact hf a j hr
  | error g j =>
      simp only [hri] at hr
      rw [bind_error hri]
      exact hr

/-- A reader with one possible answer. -/
lemma bind_takes {f : α → Reader β} {a : α} (h : Takes P r a R) (hf : Reads R (f a) S E) :
    Reads P (r >>= f) S E := by
  refine bind (h.mono (fun _ hi => hi) (fun _ _ hq => hq) fun _ he => he.elim) fun b => ?_
  exact and_pre fun hb => hb ▸ hf

lemma bind_stops {f : α → Reader β} (h : Stops P r E) : Reads P (r >>= f) S E :=
  bind h fun _ => false_pre

lemma map {f : α → β} (h : Reads P r (fun a => S (f a)) E) : Reads P (f <$> r) S E := by
  rw [map_eq_pure_bind]
  exact bind h fun a => pure fun _ hi => hi

lemma stop {c : Cause} (h : E c) : Reads P (Reader.stop c : Reader α) Q E := fun _ _ => h

lemma stopAhead {c : Cause} (h : E c) : Reads P (Reader.stopAhead c : Reader α) Q E :=
  fun _ _ => h

lemma stopUnplaced {c : Cause} (h : E c) : Reads P (Reader.stopUnplaced c : Reader α) Q E :=
  fun _ _ => h

/-- A loop keeps its invariant, and ends because the size of the ghost falls with every step. -/
lemma repeatStep {ι : Type} (I : ι → σ → Input → Prop) (size : ι → ℕ)
    {step : σ → Reader (Option σ)} {Q : σ → Input → Prop}
    (hsize : ∀ x s i, I x s i → size x ≤ i.left)
    (hstep : ∀ x s, Reads (I x s) (step s)
      (fun o j => match o with
        | none => Q s j
        | some s' => ∃ y, size y < size x ∧ I y s' j) E)
    (x : ι) (s : σ) : Reads (I x s) (Reader.repeatStep step s) Q E := by
  -- any number of steps greater than the size of the ghost is enough
  have hiterate : ∀ n x s, size x < n → Reads (I x s) (iterate step n s) Q E := by
    intro n
    induction n with
    | zero => intro x s hn; omega
    | succ n ih =>
        intro x s hn
        refine bind (hstep x s) fun o => ?_
        cases o with
        | none => exact pure fun _ hi => hi
        | some s' => exact exists_pre fun y => and_pre fun hy => ih y s' (by omega)
  intro i hi
  have hn : size x < i.left + 1 := Nat.lt_succ_of_le (hsize x s i hi)
  exact hiterate (i.left + 1) x s hn i hi

end Reads

/-- The reader does what `x` says: it answers what `x` holds and leaves an input in `R`, or `x` is a
failure, and the reader stops for a cause that `C` relates to that of `x`. -/
def Agrees (C : Cause → Cause → Prop) (P : Input → Prop) (r : Reader α) (x : Except Cause α)
    (R : Input → Prop) : Prop :=
  Reads P r (fun a j => x = .ok a ∧ R j) fun c => ∃ c', x = .error c' ∧ C c' c

namespace Agrees

variable {C : Cause → Cause → Prop} {r : Reader α} {x : Except Cause α} {S : Input → Prop}

lemma of_takes {a : α} (h : Takes P r a R) : Agrees C P r (.ok a) R :=
  h.mono (fun _ hi => hi) (fun _ _ hq => ⟨by rw [hq.1], hq.2⟩) fun _ he => he.elim

lemma of_stops {c : Cause} (h : Stops P r (C c)) : Agrees C P r (.error c) R :=
  h.mono (fun _ hi => hi) (fun _ _ hq => hq.elim) fun _ he => ⟨c, rfl, he⟩

lemma takes {a : α} (h : Agrees C P r (.ok a) R) : Takes P r a R := by
  refine Reads.mono h (fun _ hi => hi) (fun b j hq => ?_) fun c he => ?_
  · exact ⟨(Except.ok.inj hq.1).symm, hq.2⟩
  · obtain ⟨c', hc', -⟩ := he
    simp at hc'

/-- Where `x` is no failure, its cause does not matter. -/
lemma of_eq_ok {C' : Cause → Cause → Prop} {a : α} (h : Agrees C P r x R) (hx : x = .ok a) :
    Agrees C' P r x R := by
  subst hx
  exact of_takes h.takes

lemma pure {a : α} (h : ∀ i, P i → R i) : Agrees C P (Pure.pure a) (.ok a) R :=
  fun i hi => ⟨rfl, h i hi⟩

lemma bind {f : α → Reader β} {g : α → Except Cause β} (h : Agrees C P r x R)
    (hf : ∀ a, x = .ok a → Agrees C R (f a) (g a) S) : Agrees C P (r >>= f) (x >>= g) S := by
  cases x with
  | error c =>
      have hstop : Stops P r fun c' =>
          ∃ c'', (Except.error c : Except Cause β) = .error c'' ∧ C c'' c' :=
        h.mono (fun _ hi => hi) (fun _ _ hq => by simp at hq) fun _ he => by simpa using he
      exact Reads.bind_stops hstop
  | ok a => exact Reads.bind_takes h.takes (hf a rfl)

lemma ofExcept (hC : ∀ c, C c c) (h : ∀ i, P i → R i) : Agrees C P (Reader.ofExcept x) x R := by
  cases x with
  | ok a => exact pure h
  | error c => exact of_stops (Reads.stopUnplaced (hC c))

/-- What is read before and tells nothing. -/
lemma bind_takes {f : α → Reader β} {a : α} {y : Except Cause β} (h : Takes P r a R)
    (hf : Agrees C R (f a) y S) : Agrees C P (r >>= f) y S :=
  Reads.bind_takes h hf

lemma map {f : α → β} (h : Agrees C P r x R) : Agrees C P (f <$> r) (f <$> x) R := by
  rw [map_eq_pure_bind, map_eq_pure_bind]
  exact bind h fun a _ => pure fun _ hi => hi

end Agrees

end SheetCheck.Json.Reader
