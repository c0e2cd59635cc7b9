import Mathlib.Data.List.Induction
import SheetCheck.Proofs.Nesting.FirstBreach
import SheetCheck.Proofs.Text.AsciiLiteral

/-!
# What a hint names

A misplaced property in the old style without a value gets a hint, which shows its declaration
twice: first as a literal, and then as it is, behind a backslash.  The declaration is a colon and
the name without the blanks at its end.  A name can be any text, also one that imitates the rest of
the hint, and yet the message tells it: the hint begins with the literal, and where a literal ends
can be told whatever follows (`Text.AsciiLiteral.encode_append_inj`).

`Text.IsTrimmed` says what it is to be a text without the blanks at its end, and
`Node.selectorHint?_eq` what a hint shows.  From `selectorAdvice_inj`, which takes the declaration
off a hint again, it follows when two messages are equal (`Nesting.selectorHint_names`).  A message
without a hint is a sentence on one line, whichever rule it is about, while a hint begins with a
line feed.
-/

namespace SheetCheck

namespace Text

/-- A text without the blanks at its end. -/
structure IsTrimmed (text trimmed : List Char) : Prop where
  split : ∃ blanks, text = trimmed ++ blanks ∧ ∀ c ∈ blanks, isBlank c = true
  last : ∀ c, trimmed.getLast? = some c → isBlank c = false

variable {text trimmed : List Char}

lemma isTrimmed_trimEnd (text : List Char) : IsTrimmed text (trimEnd text) := by
  induction text using List.reverseRecOn with
  | nil => exact ⟨⟨[], rfl, fun _ h => absurd h List.not_mem_nil⟩, fun _ h => absurd h (by simp)⟩
  | append_singleton text c ih =>
      rw [trimEnd_concat]
      by_cases hc : isBlank c = true
      · obtain ⟨⟨blanks, heq, hblanks⟩, hlast⟩ := ih
        rw [if_pos hc]
        refine ⟨⟨blanks ++ [c], by rw [← List.append_assoc, ← heq], ?_⟩, hlast⟩
        exact List.forall_mem_append.2 ⟨hblanks, List.forall_mem_singleton.2 hc⟩
      · rw [if_neg hc]
        refine ⟨⟨[], (List.append_nil _).symm, fun _ h => absurd h List.not_mem_nil⟩, ?_⟩
        intro d hd
        obtain rfl : c = d := by simpa using hd
        exact Bool.eq_false_iff.2 hc

lemma trimEnd_append {blanks : List Char} (h : ∀ c ∈ blanks, isBlank c = true) (text : List Char) :
    trimEnd (text ++ blanks) = trimEnd text := by
  induction blanks using List.reverseRecOn with
  | nil => rw [List.append_nil]
  | append_singleton blanks c ih =>
      obtain ⟨hblanks, hc⟩ := List.forall_mem_append.1 h
      rw [← List.append_assoc, trimEnd_concat, if_pos (List.forall_mem_singleton.1 hc), ih hblanks]

/-- There is one text without the blanks at its end. -/
lemma isTrimmed_iff : IsTrimmed text trimmed ↔ trimmed = trimEnd text := by
  constructor
  · rintro ⟨⟨blanks, rfl, hblanks⟩, hlast⟩
    rw [trimEnd_append hblanks]
    rcases List.eq_nil_or_concat trimmed with rfl | ⟨init, c, rfl⟩
    · rfl
    · rw [List.concat_eq_append] at hlast ⊢
      have hc : isBlank c = false := hlast c List.getLast?_concat
      rw [trimEnd_concat, hc]
      rfl
  · rintro rfl
    exact isTrimmed_trimEnd text

/-- Blanks at the end are cut off up to a character that is none. -/
lemma trimEnd_cons {c : Char} (h : isBlank c = false) (text : List Char) :
    trimEnd (c :: text) = c :: trimEnd text := by
  induction text using List.reverseRecOn with
  | nil =>
      have hc := trimEnd_concat [] c
      rwa [h] at hc
  | append_singleton text d ih =>
      rw [← List.cons_append, trimEnd_concat, trimEnd_concat, ih]
      split <;> rfl

end Text

open Text

/-! ### The declaration that a hint shows -/

namespace Property

/-- A property that looks like a selector is declared by a colon and its trimmed name. -/
lemma declaration_of_looksLikeSelector {p : Property} (h : p.looksLikeSelector = true) :
    p.declaration = String.ofList (':' :: trimEnd p.name.toList) := by
  obtain ⟨hstyle, hvalue⟩ : p.style = .old ∧ p.value = .string "" := by
    simpa [looksLikeSelector] using h
  have hcolon : isBlank ':' = false := by decide
  have hspace : ∀ c ∈ [' '], isBlank c = true := List.forall_mem_singleton.2 rfl
  have htext : p.declaration = String.ofList (trimEnd (':' :: (p.name.toList ++ [' ']))) := by
    rw [declaration, hstyle, hvalue]
    rfl
  rw [htext, trimEnd_cons hcolon, trimEnd_append hspace]

lemma looksLikeSelector_iff {p : Property} :
    p.looksLikeSelector = true ↔ ∃ name, p = ⟨name, .string "", .old⟩ := by
  obtain ⟨name, value, style⟩ := p
  simp only [looksLikeSelector, decide_eq_true_eq, mk.injEq]
  constructor
  · rintro ⟨rfl, rfl⟩
    exact ⟨name, rfl, rfl, rfl⟩
  · rintro ⟨_, -, rfl, rfl⟩
    exact ⟨rfl, rfl⟩

end Property

lemma toList_selectorAdvice (declaration : String) :
    (selectorAdvice declaration).toList =
      "\nIf ".toList ++ (AsciiLiteral.encode declaration.toList ++
        (" should be a selector, use \"\\".toList ++ (declaration.toList ++
          "\" instead.".toList))) := by
  have hadvice : selectorAdvice declaration =
      "\nIf " ++ String.ofList (AsciiLiteral.encode declaration.toList) ++
        " should be a selector, use \"\\" ++ declaration ++ "\" instead." := rfl
  rw [hadvice]
  simp

/-- A hint tells the declaration that it shows. -/
lemma selectorAdvice_inj {a b : String} (h : selectorAdvice a = selectorAdvice b) : a = b := by
  have hlist := congrArg String.toList h
  rw [toList_selectorAdvice, toList_selectorAdvice] at hlist
  obtain ⟨hdeclaration, -⟩ := AsciiLiteral.encode_append_inj (List.append_cancel_left hlist)
  exact String.toList_inj.1 hdeclaration

lemma newline_mem_selectorAdvice (declaration : String) :
    '\n' ∈ (selectorAdvice declaration).toList := by
  rw [toList_selectorAdvice]
  exact List.mem_append_left _ List.mem_cons_self

namespace Node

variable {n : Node} {name : String}

/-- Only a property in the old style whose value is an empty word has a hint. -/
lemma selectorHint?_eq_none_iff :
    n.selectorHint? = none ↔ ∀ name, n.kind ≠ .property ⟨name, .string "", .old⟩ := by
  unfold selectorHint?
  split
  · next p hkind =>
      rw [hkind]
      split
      · next h =>
          obtain ⟨name, rfl⟩ := Property.looksLikeSelector_iff.1 h
          exact ⟨fun h => absurd h (by simp), fun h => absurd rfl (h name)⟩
      · next h =>
          refine ⟨fun _ name heq => h ?_, fun _ => rfl⟩
          exact Property.looksLikeSelector_iff.2 ⟨name, Kind.property.inj heq⟩
  · next hproperty => exact ⟨fun _ name => hproperty _, fun _ => rfl⟩

lemma selectorHint?_eq (h : n.kind = .property ⟨name, .string "", .old⟩) :
    n.selectorHint? =
      some (selectorAdvice (String.ofList (':' :: trimEnd name.toList))) := by
  have hlooks : Property.looksLikeSelector ⟨name, .string "", .old⟩ = true :=
    Property.looksLikeSelector_iff.2 ⟨name, rfl⟩
  rw [selectorHint?, h]
  change (if Property.looksLikeSelector _ then _ else _) = _
  rw [if_pos hlooks, Property.declaration_of_looksLikeSelector hlooks]

lemma exists_of_selectorHint?_ne_none (h : n.selectorHint? ≠ none) :
    ∃ name, n.kind = .property ⟨name, .string "", .old⟩ := by
  by_contra hnone
  exact h (selectorHint?_eq_none_iff.2 (not_exists.1 hnone))

end Node

/-! ### Messages with and without a hint -/

lemma Rule.newline_not_mem_sentence (r : Rule) : '\n' ∉ r.sentence.toList := by
  -- The characters of a literal need not be decoded from its bytes.
  obtain ⟨cs, hsentence, hcs⟩ : ∃ cs, r.sentence = String.ofList cs ∧ '\n' ∉ cs := by
    cases r <;> exact ⟨_, rfl, by decide⟩
  rw [hsentence, String.toList_ofList]
  exact hcs

namespace Nesting

variable {o : Occurrence} {r : Rule}

lemma message_raise_of_hint {name : String}
    (h : o.node.kind = .property ⟨name, .string "", .old⟩) :
    (o.raise .propertyParent).message =
      Rule.propertyParent.sentence ++
        selectorAdvice (String.ofList (':' :: trimEnd name.toList)) := by
  have hremark : Rule.propertyParent.remark o.node = o.node.selectorHint?.getD "" := rfl
  rw [o.raise_message, Rule.message, hremark, Node.selectorHint?_eq h, Option.getD_some]

lemma message_raise_of_no_hint (h : r = .propertyParent → o.node.selectorHint? = none) :
    (o.raise r).message = r.sentence := by
  have hremark : r.remark o.node = "" := by
    cases r with
    | propertyParent => exact congrArg (Option.getD · "") (h rfl)
    | _ => rfl
  rw [o.raise_message, Rule.message, hremark, String.append_empty]

/-- **A hint names the declaration.**  A node has a hint exactly when it is a property in the old
style whose value is an empty word.  The hint shows a colon and the name without the blanks at its
end, first as a literal and then as it is, behind a backslash.  When two misplaced properties have
a hint, the messages are the same exactly when the names are, up to blanks at the end; and no
message with a hint is one without, whatever rule that one is about. -/
theorem selectorHint_names :
    (∀ n : Node, n.selectorHint? ≠ none ↔ ∃ name, n.kind = .property ⟨name, .string "", .old⟩) ∧
    (∀ (n : Node) (name : String), n.kind = .property ⟨name, .string "", .old⟩ →
      ∃ trimmed, IsTrimmed name.toList trimmed ∧ n.selectorHint? =
        some ("\nIf " ++ String.ofList (AsciiLiteral.encode (':' :: trimmed)) ++
          " should be a selector, use \"\\" ++ String.ofList (':' :: trimmed) ++
          "\" instead.")) ∧
    ∀ (scope scope' : Scope Node) (t t' : Node) (o o' : Occurrence) (r : Rule) (e e' : Failure),
      FirstBreach scope t o .propertyParent → (visit scope t).failure = some e →
      FirstBreach scope' t' o' r → (visit scope' t').failure = some e' →
        (r = .propertyParent → ∀ name name', o.node.kind = .property ⟨name, .string "", .old⟩ →
          o'.node.kind = .property ⟨name', .string "", .old⟩ →
          (e.message = e'.message ↔
            ∃ trimmed, IsTrimmed name.toList trimmed ∧ IsTrimmed name'.toList trimmed)) ∧
        (o.node.selectorHint? ≠ none → (r = .propertyParent → o'.node.selectorHint? = none) →
          e.message ≠ e'.message) := by
  refine ⟨fun n => ⟨Node.exists_of_selectorHint?_ne_none, ?_⟩, fun n name hkind => ?_, ?_⟩
  · rintro ⟨name, hkind⟩ hnone
    exact Node.selectorHint?_eq_none_iff.1 hnone name hkind
  · refine ⟨trimEnd name.toList, isTrimmed_trimEnd _, ?_⟩
    rw [Node.selectorHint?_eq hkind, selectorAdvice, String.toList_ofList]
    rfl
  · intro scope scope' t t' o o' r e e' hfirst he hfirst' he'
    obtain rfl : o.raise .propertyParent = e :=
      Option.some.inj ((visit_failure_eq_some_iff.2 ⟨o, _, hfirst, rfl⟩).symm.trans he)
    obtain rfl : o'.raise r = e' :=
      Option.some.inj ((visit_failure_eq_some_iff.2 ⟨o', _, hfirst', rfl⟩).symm.trans he')
    refine ⟨?_, fun hsome hnone hmessage => ?_⟩
    · rintro rfl name name' hkind hkind'
      rw [message_raise_of_hint hkind, message_raise_of_hint hkind']
      constructor
      · intro hmessage
        have hdeclaration := selectorAdvice_inj ((String.append_right_inj _).1 hmessage)
        obtain ⟨-, htrimmed⟩ := List.cons.inj (String.ofList_injective hdeclaration)
        exact ⟨trimEnd name.toList, isTrimmed_trimEnd _, isTrimmed_iff.2 htrimmed⟩
      · rintro ⟨trimmed, htrimmed, htrimmed'⟩
        rw [← isTrimmed_iff.1 htrimmed, ← isTrimmed_iff.1 htrimmed']
    · obtain ⟨name, hkind⟩ := Node.exists_of_selectorHint?_ne_none hsome
      rw [message_raise_of_hint hkind, message_raise_of_no_hint hnone] at hmessage
      -- Only the message with the hint breaks a line.
      refine r.newline_not_mem_sentence ?_
      rw [← hmessage, String.toList_append]
      exact List.mem_append_right _ (newline_mem_selectorAdvice _)

/-- A document that holds nothing but a misplaced property in the old style without a value. -/
def strayDeclaration (name : String) : Node :=
  ⟨.root "", [⟨.property ⟨name, .string "", .old⟩, [], none, 2⟩], none, 1⟩

/-- The misplaced property in the document. -/
def strayProperty (name : String) : Occurrence :=
  ⟨⟨.property ⟨name, .string "", .old⟩, [], none, 2⟩, [strayDeclaration name]⟩

lemma firstBreach_strayProperty (name : String) :
    FirstBreach none (strayDeclaration name) (strayProperty name) .propertyParent := by
  have heq : (strayDeclaration name).occurrences =
      [.top (strayDeclaration name)] ++ strayProperty name :: [] := rfl
  exact .of_violation? heq rfl rfl

/-- A document that holds nothing but a misplaced return. -/
def loneReturn : Node := ⟨.root "", [⟨.returnValue, [], none, 2⟩], none, 1⟩

lemma firstBreach_loneReturn :
    FirstBreach none loneReturn ⟨⟨.returnValue, [], none, 2⟩, [loneReturn]⟩ .returnParent := by
  have heq : loneReturn.occurrences =
      [.top loneReturn] ++ ⟨⟨.returnValue, [], none, 2⟩, [loneReturn]⟩ :: [] := rfl
  exact .of_violation? heq rfl rfl

/-- A name that imitates the rest of a hint is told from the name that this hint would show, and
blanks behind it make no difference; nor is its message that of another rule. -/
theorem selectorHint_names_imitating :
    ∃ e e' e'' d, (visit none (strayDeclaration "a\" should be")).failure = some e ∧
      (visit none (strayDeclaration "a\" should be\n ")).failure = some e' ∧
      (visit none (strayDeclaration "a")).failure = some e'' ∧
      (visit none loneReturn).failure = some d ∧
      e.message = e'.message ∧ e.message ≠ e''.message ∧ e.message ≠ d.message := by
  obtain ⟨hhint, -, hmessages⟩ := selectorHint_names
  have himitating := firstBreach_strayProperty "a\" should be"
  have hsame := (hmessages none none _ _ _ _ _ _ _ himitating rfl
    (firstBreach_strayProperty "a\" should be\n ") rfl).1 rfl _ _ rfl rfl
  have hother := (hmessages none none _ _ _ _ _ _ _ himitating rfl
    (firstBreach_strayProperty "a") rfl).1 rfl _ _ rfl rfl
  have hreturn := (hmessages none none _ _ _ _ _ _ _ himitating rfl
    firstBreach_loneReturn rfl).2 ((hhint _).2 ⟨_, rfl⟩) (fun h => absurd h (by decide))
  refine ⟨_, _, _, _, rfl, rfl, rfl, rfl, hsame.2 ?_, fun h => ?_, hreturn⟩
  · exact ⟨trimEnd "a\" should be".toList, isTrimmed_trimEnd _, isTrimmed_iff.2 (by decide)⟩
  · obtain ⟨trimmed, h, h'⟩ := hother.1 h
    have heq := (isTrimmed_iff.1 h).symm.trans (isTrimmed_iff.1 h')
    exact absurd heq (by decide)

end Nesting

end SheetCheck
