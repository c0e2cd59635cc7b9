import SheetCheck.Node.OfText
import SheetCheck.Proofs.Json.Compact
import SheetCheck.Proofs.Json.Skipping
import SheetCheck.Proofs.Node.Members

/-!
# The two readings of a tree agree

A tree is read from a JSON value, or straight from a text.  For every part of a tree the two
readings are compared on the texts of a value: they answer the same, or both refuse.  What they say
when they refuse may differ, since a text is refused at its first fault.

When no more brackets are open at once than are allowed, any text of a value holds the tree that the
value holds (`Node.ofText_eq_ok_iff`).  The main result is that of the compact text
(`Node.ofValue_eq_ok_iff_ofText_compact`).
-/

namespace SheetCheck

open Json Json.Reader Json.Input

/-- The reader answers what `x` holds and leaves an input in `R`, or stops when `x` is a failure. -/
abbrev Same {α : Type} (P : Input → Prop) (r : Reader α) (x : Except Cause α) (R : Input → Prop) :
    Prop :=
  Agrees (fun _ _ => True) P r x R

variable {v : Value} {ts : List Token}

/-- What was not wanted is refused, be it a value or not. -/
lemma stops_unwanted {α : Type} {P : Input → Prop} {c : Char} {wanted : String} :
    Stops P (unwanted c wanted : Reader α) fun _ => True := by
  rw [unwanted]
  split
  · exact Reads.stop trivial
  · split
    · exact Reads.stop trivial
    · exact Reads.bind Reads.trivial fun _ => Reads.stop trivial

/-- A value that is refused for its first character. -/
lemma same_refuse {α : Type} {f : Option Char → Reader α} {c : Cause} {R : Input → Prop}
    (h : ∀ c, v.head.Starts c → Stops (Shows (v.tokens ts)) (f (some c)) fun _ => True) :
    Same (Shows (v.tokens ts)) (peekToken >>= f) (.error c) R :=
  Agrees.of_stops (Reads.peekToken_bind_value h)

namespace Kind

lemma same_readTag (v : Value) (ts : List Token) :
    Same (Shows (v.tokens ts)) readTag (tagOfValue v) (Shows ts) := by
  cases v with
  | string name =>
      refine Reads.peekToken_bind fun c hc => ?_
      obtain rfl : c = '"' := hc
      refine Agrees.bind_takes (takes_advance_string name ts) ?_
      refine Agrees.bind_takes (takes_string name ts) ?_
      rw [tagOfValue]
      cases tagNamed name with
      | ok tag => exact Agrees.pure fun _ hi => hi
      | error c => exact Agrees.of_stops (Reads.stop trivial)
  | null | boolean | number | array | object =>
      refine same_refuse fun c hc => ?_
      have hstring : c = '"' → False := by
        rintro rfl
        simpa using Value.starts_string hc
      simp only
      exact stops_unwanted

variable {value : Reader Value} {ms : List (String × Value)} {vs : List Value}

lemma same_readMembers
    (h : ∀ m ∈ ms, ∀ ts, Followed ts → Takes (Shows (m.2.tokens ts)) value m.2 (Shows ts))
    (ts : List Token) :
    Same (Shows (Value.memberTokens true ms (.mark .closeObject :: ts))) (readMembers value)
      (splitMembers none [] ms) (Shows (.mark .closeObject :: ts)) := by
  rw [splitMembers_eq_foldlM ms (none, [])]
  refine Agrees.bind (agrees_foldMembers ?_ _ ts) fun s _ => ?_
  · rintro ⟨tag, others⟩ ⟨key, v⟩ hm ts' hts'
    rw [Split.step]
    by_cases hkey : key = "type"
    · simp only [hkey, if_true]
      cases tag with
      | some tag => exact Agrees.of_stops (Reads.bind_stops (Reads.stopUnplaced trivial))
      | none =>
          refine Agrees.bind_takes takes_colon (Agrees.bind (same_readTag v ts') fun tag _ => ?_)
          exact Agrees.pure fun _ hi => hi
    · simp only [hkey, if_false]
      refine Agrees.bind_takes takes_colon (Agrees.bind_takes (h (key, v) hm ts' hts') ?_)
      exact Agrees.pure fun _ hi => hi
  · obtain ⟨tag, others⟩ := s
    cases tag with
    | some tag => exact Agrees.pure fun _ hi => hi
    | none => exact Agrees.of_stops (Reads.stopUnplaced trivial)

lemma same_readItems
    (h : ∀ v ∈ vs, ∀ ts, Followed ts → Takes (Shows (v.tokens ts)) value v (Shows ts))
    (v : Value) (ts : List Token) :
    Same (Shows (Value.itemTokens true (v :: vs) (.mark .closeList :: ts))) (readItems value)
      ((fun tag => (tag, .items vs)) <$> tagOfValue v) (Shows (.mark .closeList :: ts)) := by
  refine Agrees.bind_takes (takes_nextItem true v) ?_
  simp only [if_true, map_eq_pure_bind]
  refine Agrees.bind (same_readTag v _) fun tag _ => ?_
  exact Agrees.bind_takes (takes_items false h) (Agrees.pure fun _ hi => hi)

/-- A kind is read from its text as from its value. -/
lemma same_read (levels : ℕ) (h : v.depth ≤ levels) (ts : List Token) :
    Same (Shows (v.tokens ts)) (read levels) (ofValue v) (Shows ts) := by
  cases v with
  | object ms =>
      obtain ⟨inner, rfl, hmembers⟩ := Value.depth_object_le_iff.1 h
      rw [ofValue_object]
      have hbody := same_readMembers (fun m hm _ => takes_value inner (hmembers m hm)) ts
      refine Reads.peekToken_bind fun c hc => ?_
      obtain rfl : c = '\x7b' := hc
      refine Agrees.bind (.bracketed .openObject hbody takes_closeObject) fun q _ => ?_
      exact Agrees.ofExcept (fun _ => trivial) fun _ hi => hi
  | array vs =>
      obtain ⟨inner, rfl, hitems⟩ := Value.depth_array_le_iff.1 h
      cases vs with
      | nil =>
          refine Agrees.of_stops (Reads.peekToken_bind fun c hc => ?_)
          obtain rfl : c = '[' := hc
          refine Reads.bind_stops (Reads.bracketed .openList ?_ fun _ => Reads.false_pre)
          exact Reads.bind_takes (takes_nextItem_end true) (Reads.stopUnplaced trivial)
      | cons v vs =>
          have hbody :=
            same_readItems (fun u hu _ => takes_value inner (hitems u (.tail _ hu))) v ts
          rw [ofValue_array]
          refine Reads.peekToken_bind fun c hc => ?_
          obtain rfl : c = '[' := hc
          refine Agrees.bind (.bracketed .openList hbody takes_closeList) fun q _ => ?_
          exact Agrees.ofExcept (fun _ => trivial) fun _ hi => hi
  | null | boolean | number | string =>
      refine same_refuse fun c hc => ?_
      obtain ⟨hlist, hobject⟩ := Value.ne_bracket_of_starts rfl hc
      simp only [hlist, hobject, if_false]
      exact Reads.bind_stops stops_unwanted

end Kind

namespace Node

/-! ### The members of a node -/

lemma same_readFilename (v : Value) (ts : List Token) :
    Same (Shows (v.tokens ts)) readFilename (filenameOfValue v) (Shows ts) := by
  cases v with
  | null =>
      refine Reads.peekToken_bind fun c hc => ?_
      obtain rfl : c = 'n' := hc
      exact Agrees.bind_takes takes_null (Agrees.pure fun _ hi => hi)
  | string s =>
      refine Reads.peekToken_bind fun c hc => ?_
      obtain rfl : c = '"' := hc
      refine Agrees.bind_takes (takes_advance_string s ts) ?_
      exact Agrees.map (x := .ok s) (.of_takes (takes_string s ts))
  | boolean | number | array | object =>
      refine same_refuse fun c hc => ?_
      have hnull : c = 'n' → False := by
        rintro rfl
        simpa using Value.starts_null hc
      have hstring : c = '"' → False := by
        rintro rfl
        simpa using Value.starts_string hc
      simp only
      exact stops_unwanted

lemma same_readLine (v : Value) (hts : Followed ts) :
    Same (Shows (v.tokens ts)) readLine (lineOfValue v) (Shows ts) := by
  cases v with
  | number x =>
      refine Reads.peekToken_bind fun c hc => ?_
      have hnumber : c = '-' ∨ c.isDigit := hc
      simp only [hnumber, if_true]
      refine Agrees.bind_takes (takes_number hts) ?_
      rw [lineOfValue]
      cases lineOf x with
      | ok line => exact Agrees.pure fun _ hi => hi
      | error c => exact Agrees.of_stops (Reads.stop trivial)
  | null | boolean | string | array | object =>
      refine same_refuse fun c hc => ?_
      have hnumber : ¬ (c = '-' ∨ c.isDigit) := fun h => by simpa using Value.starts_number hc h
      simp only [hnumber, if_false]
      exact stops_unwanted

variable {levels : ℕ} {child : Reader Node}

/-- In front of the tokens `ts`, the value of the member is read as it should be, whatever its name
is. -/
structure ReadsMember (C : Cause → Cause → Prop) (levels : ℕ) (child : Reader Node)
    (kindOf : Value → Except Cause Kind) (childrenOf : Value → Except Cause (List Node))
    (m : String × Value) (ts : List Token) : Prop where
  kind : m.1 = "kind" →
    Agrees C (Shows (m.2.tokens ts)) (Kind.read levels) (kindOf m.2) (Shows ts)
  children : m.1 = "children" →
    Agrees C (Shows (m.2.tokens ts)) (readChildren levels child) (childrenOf m.2) (Shows ts)
  filename : m.1 = "filename" →
    Agrees C (Shows (m.2.tokens ts)) readFilename (filenameOfValue m.2) (Shows ts)
  line : m.1 = "line" → Agrees C (Shows (m.2.tokens ts)) readLine (lineOfValue m.2) (Shows ts)

section Member

variable {C : Cause → Cause → Prop} {kindOf : Value → Except Cause Kind}
  {childrenOf : Value → Except Cause (List Node)}

/-- A member is read together with its name; one that nobody knows is passed over. -/
lemma agrees_readMember (hC : ∀ c, C c c) (met : Met) {m : String × Value}
    (hm : ReadsMember C levels child kindOf childrenOf m ts) (hts : Followed ts) :
    Agrees C (Shows (.mark .colon :: m.2.tokens ts)) (readMember levels child met m.1)
      (met.addWith kindOf childrenOf m) (Shows ts) := by
  rw [readMember, Met.addWith]
  split
  · exact Agrees.of_stops (Reads.bind_stops (Reads.stopUnplaced (hC _)))
  · refine Agrees.bind_takes takes_colon ?_
    split
    next h => exact Agrees.bind (hm.kind h) fun _ _ => Agrees.pure fun _ hi => hi
    next =>
      split
      next h => exact Agrees.bind (hm.children h) fun _ _ => Agrees.pure fun _ hi => hi
      next =>
        split
        next h => exact Agrees.bind (hm.filename h) fun _ _ => Agrees.pure fun _ hi => hi
        next =>
          split
          next h => exact Agrees.bind (hm.line h) fun _ _ => Agrees.pure fun _ hi => hi
          next => exact Agrees.bind_takes (takes_skipValue m.2 hts) (Agrees.pure fun _ hi => hi)

lemma agrees_readMembers {ms : List (String × Value)} (hC : ∀ c, C c c)
    (h : ∀ m ∈ ms, ∀ ts, Followed ts → ReadsMember C levels child kindOf childrenOf m ts)
    (ts : List Token) :
    Agrees C (Shows (Value.memberTokens true ms (.mark .closeObject :: ts)))
      (readMembers levels child)
      (ms.foldlM (Met.addWith kindOf childrenOf) .nothing >>= Met.node)
      (Shows (.mark .closeObject :: ts)) := by
  refine Agrees.bind (agrees_foldMembers (fun met m hm ts' hts' => ?_) _ ts) fun met _ => ?_
  · exact agrees_readMember hC met (h m hm ts' hts') hts'
  · exact Agrees.ofExcept hC fun _ hi => hi

end Member

/-- An item that may be missing is taken from those that are left. -/
lemma same_readItem? {α : Type} {missing : α} {item : Reader α} {f : Value → Except Cause α}
    {vs : List Value}
    (h : ∀ v ∈ vs, ∀ ts, Followed ts → Same (Shows (v.tokens ts)) item (f v) (Shows ts))
    (ts : List Token) :
    Same (Shows (Value.itemTokens false vs (.mark .closeList :: ts))) (readItem? missing item)
      (itemOfValue? missing f vs)
      (Shows (Value.itemTokens false vs.tail (.mark .closeList :: ts))) := by
  cases vs with
  | nil => exact Agrees.bind_takes (takes_nextItem_end false) (Agrees.pure fun _ hi => hi)
  | cons v vs =>
      refine Agrees.bind_takes (takes_nextItem false v) ?_
      exact h v List.mem_cons_self _ (followed_itemTokens vs (followed_mark _ _))

lemma same_closeList {wanted : ℕ} {vs : List Value} :
    Same (Shows (Value.itemTokens false (vs.drop wanted) (.mark .closeList :: ts))) closeList
      (noMoreItems wanted vs) (Shows ts) := by
  rw [noMoreItems]
  split
  next hlength =>
    rw [List.drop_eq_nil_of_le hlength]
    exact Agrees.of_takes takes_closeList
  next hlength =>
    rw [List.drop_eq_getElem_cons (Nat.lt_of_not_le hlength)]
    exact Agrees.of_stops (stops_closeList _)

section Child

/-! Within the bracket of a node, the children stand within one more. -/

variable (hchild : ∀ u ts, u.depth + 1 ≤ levels →
  Same (Shows (u.tokens ts)) child (ofValue u) (Shows ts))
include hchild

lemma same_readChildren (h : v.depth ≤ levels) (ts : List Token) :
    Same (Shows (v.tokens ts)) (readChildren levels child) (childrenOfValue v) (Shows ts) := by
  cases v with
  | array vs =>
      obtain ⟨inner, rfl, hitems⟩ := Value.depth_array_le_iff.1 h
      rw [childrenOfValue, ofValues_eq_mapM]
      refine Reads.peekToken_bind fun c hc => ?_
      obtain rfl : c = '[' := hc
      have hbody := agrees_items
        (fun u hu ts' _ => hchild u ts' (Nat.succ_le_succ (hitems u hu))) true ts
      exact Agrees.bracketed .openList hbody takes_closeList
  | null | boolean | number | string | object =>
      rw [childrenOfValue.eq_def]
      refine same_refuse fun c hc => ?_
      have hlist : c = '[' → False := by
        rintro rfl
        simpa using Value.starts_array hc
      simp only
      exact stops_unwanted

lemma same_readMembers {ms : List (String × Value)} (h : ∀ m ∈ ms, m.2.depth ≤ levels)
    (ts : List Token) :
    Same (Shows (Value.memberTokens true ms (.mark .closeObject :: ts))) (readMembers levels child)
      (ofMembers .nothing ms) (Shows (.mark .closeObject :: ts)) := by
  rw [ofMembers_eq_foldlM]
  refine agrees_readMembers (fun _ => trivial) (fun m hm ts' hts' => ?_) ts
  exact {
    kind := fun _ => Kind.same_read levels (h m hm) ts'
    children := fun _ => same_readChildren hchild (h m hm) ts'
    filename := fun _ => same_readFilename m.2 ts'
    line := fun _ => same_readLine m.2 hts' }

lemma same_readItems {v : Value} {vs : List Value} (h : ∀ u ∈ v :: vs, u.depth ≤ levels)
    (ts : List Token) :
    Same (Shows (Value.itemTokens true (v :: vs) (.mark .closeList :: ts))) (readItems levels child)
      (do
        let kind ← Kind.ofValue v
        let children ← itemOfValue? [] childrenOfValue vs
        let filename ← itemOfValue? none filenameOfValue vs.tail
        let line ← itemOfValue? 0 lineOfValue vs.tail.tail
        pure ⟨kind, children, filename, line⟩)
      (Shows (Value.itemTokens false (vs.drop 3) (.mark .closeList :: ts))) := by
  refine Agrees.bind_takes (takes_nextItem true v) ?_
  simp only [if_true]
  refine Agrees.bind (Kind.same_read levels (h v List.mem_cons_self) _) fun kind _ => ?_
  refine Agrees.bind (same_readItem? (fun u hu ts' _ => ?_) ts) fun children _ => ?_
  · exact same_readChildren hchild (h u (.tail _ hu)) ts'
  refine Agrees.bind (same_readItem? (fun u _ ts' _ => ?_) ts) fun filename _ => ?_
  · exact same_readFilename u ts'
  refine Agrees.bind (same_readItem? (fun u _ ts' hts' => ?_) ts) fun line _ => ?_
  · exact same_readLine u hts'
  refine Agrees.pure fun i hi => ?_
  rwa [← List.drop_one, ← List.drop_one, ← List.drop_one, List.drop_drop, List.drop_drop] at hi

end Child

lemma same_readWith (h : v.depth ≤ levels)
    (hchild : ∀ u ts, u.depth + 2 ≤ levels →
      Same (Shows (u.tokens ts)) child (ofValue u) (Shows ts)) (ts : List Token) :
    Same (Shows (v.tokens ts)) (readWith levels child) (ofValue v) (Shows ts) := by
  cases v with
  | object ms =>
      obtain ⟨inner, rfl, hmembers⟩ := Value.depth_object_le_iff.1 h
      have hinner : ∀ u ts, u.depth + 1 ≤ inner →
          Same (Shows (u.tokens ts)) child (ofValue u) (Shows ts) :=
        fun u ts hu => hchild u ts (Nat.succ_le_succ hu)
      rw [ofValue.eq_def]
      refine Reads.peekToken_bind fun c hc => ?_
      obtain rfl : c = '\x7b' := hc
      exact Agrees.bracketed .openObject (same_readMembers hinner hmembers ts) takes_closeObject
  | array vs =>
      obtain ⟨inner, rfl, hitems⟩ := Value.depth_array_le_iff.1 h
      have hinner : ∀ u ts, u.depth + 1 ≤ inner →
          Same (Shows (u.tokens ts)) child (ofValue u) (Shows ts) :=
        fun u ts hu => hchild u ts (Nat.succ_le_succ hu)
      cases vs with
      | nil =>
          rw [ofValue.eq_def]
          refine Agrees.of_stops (Reads.peekToken_bind fun c hc => ?_)
          obtain rfl : c = '[' := hc
          refine Reads.bracketed .openList ?_ fun _ => Reads.false_pre
          exact Reads.bind_takes (takes_nextItem_end true) (Reads.stopUnplaced trivial)
      | cons v vs =>
          rw [ofValue_array]
          refine Reads.peekToken_bind fun c hc => ?_
          obtain rfl : c = '[' := hc
          exact Agrees.bracketed_bind .openList (same_readItems hinner hitems ts) same_closeList
  | null | boolean | number | string =>
      rw [ofValue.eq_def]
      refine same_refuse fun c hc => ?_
      obtain ⟨hlist, hobject⟩ := Value.ne_bracket_of_starts rfl hc
      simp only [hlist, hobject, if_false]
      exact stops_unwanted

/-- A tree is read from its text as from its value, if enough brackets may be open at once. -/
lemma same_read (levels : ℕ) (h : v.depth ≤ levels) (ts : List Token) :
    Same (Shows (v.tokens ts)) (read levels) (ofValue v) (Shows ts) := by
  induction levels using read.induct generalizing v ts with
  | case1 levels ih =>
      rw [read]
      exact same_readWith h (fun u ts' hu => ih (Nat.le_of_add_le_add_right hu) ts') ts
  | case2 levels hlevels =>
      -- no bracket is left for a child
      rw [read.eq_2 levels hlevels]
      exact same_readWith h (fun u _ hu => (hlevels (levels - 2) (by omega)).elim) ts

/-- A text of a value holds the tree that the value holds. -/
lemma ofText_eq_ok_iff {text : List Char} (htext : v.Written text) (h : v.depth ≤ 127) (n : Node) :
    ofText (String.ofList text) = .ok n ↔ ofValue v = .ok n := by
  have hread := same_read maxLevels h []
  cases hv : ofValue v with
  | ok m =>
      rw [hv] at hread
      have htree : ofText (String.ofList text) = .ok m := runAll_eq_ok hread htext
      rw [htree, Except.ok.injEq, Except.ok.injEq]
  | error c =>
      rw [hv] at hread
      obtain ⟨refusal, hrefusal, -⟩ := runAll_eq_error hread htext
      have htree : ofText (String.ofList text) = .error refusal := hrefusal
      simp [htree]

/-- A value and its compact text hold the same tree, or none of them holds a tree.  This is so for
all values of which every number is an integer that fits a 64 bit word, also for those that are no
trees and for objects in which a name occurs twice. -/
theorem ofValue_eq_ok_iff_ofText_compact (v : Value) (hwords : v.FitsWords) (hdepth : v.depth ≤ 127)
    (n : Node) : ofValue v = .ok n ↔ ofText v.compact = .ok n := by
  have htext : v.Written v.text := Value.written_text hwords
  exact (ofText_eq_ok_iff htext hdepth n).symm

/-- A rule whose kind and child are written as arrays. -/
def commentedRule : Value :=
  .object [("line", .number (.integer 3)), ("kind", .array [.string "rule", .string "a"]),
    ("children", .array [.array [.object [("type", .string "comment")]]])]

theorem ofText_compact_commentedRule :
    commentedRule.FitsWords ∧ commentedRule.depth ≤ 127 ∧
      ofText commentedRule.compact = .ok ⟨.rule "a", [⟨.comment, [], none, 0⟩], none, 3⟩ := by
  have hwords : commentedRule.FitsWords := by
    simp [commentedRule, Value.FitsWords, Value.ItemsFitWords, Value.MembersFitWords]
  have hdepth : commentedRule.depth ≤ 127 := by decide
  have hvalue : ofValue commentedRule = .ok ⟨.rule "a", [⟨.comment, [], none, 0⟩], none, 3⟩ := by
    rfl
  exact ⟨hwords, hdepth, (ofValue_eq_ok_iff_ofText_compact commentedRule hwords hdepth _).1 hvalue⟩

end Node

end SheetCheck
