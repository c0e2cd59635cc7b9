import SheetCheck.Failure.Excerpt
import SheetCheck.Proofs.Failure.Trace

/-!
# The source of a failure

A failure takes the source of the first document that it leaves and that has one
(`Occurrence.template_raise`, `Nesting.visit_template`).  An excerpt of it is shown when the first
frame and that document agree on the file.  For a node beneath an import this should never be so,
as long as nothing beneath the import is named like the document: the node is in another file.

It can be so nevertheless, for two reasons.  A frame without a name may have taken the name of
the document, past an import that has no name either.  And if the document has no name, a frame
without a name agrees with it.  `SeemsToLieIn` puts the two together, and
`BeneathImport.frame_eq_iff` shows that nothing else can bring the excerpt about.  The module ends
with when exactly the excerpt is withheld, and with a document for which it is not.
-/

namespace SheetCheck

open Nesting

/-- The occurrence `o` lies beneath the import `i`, and that beneath the document `d`, whose
source a failure takes there.  Nothing beneath the import has the file name of the document. -/
structure BeneathImport (o : Occurrence) (inner : List Node) (i : Node) (mid : List Node)
    (d : Node) (outer : List Node) : Prop where
  above_eq : o.above = inner ++ i :: (mid ++ d :: outer)
  isImport : i.tag = .importSheet
  hasSource : d.source? ≠ none
  nearest : ∀ n ∈ inner ++ i :: mid, n.source? = none
  foreign : ∀ b ∈ i.occurrences, b ≠ .top i →
    ∀ file, b.node.filename = some file → d.filename ≠ some file

/-- For want of file names, an occurrence beneath the import `i` seems to lie in the file of the
document `d`.  It has no name itself.  If the document has one, no node out to the import decides
about the file, and the first one further out that does gives the name of the document; if the
document has none, the occurrence gets none either. -/
def SeemsToLieIn (o : Occurrence) (inner : List Node) (i : Node) (mid : List Node) (d : Node)
    (outer : List Node) : Prop :=
  o.node.filename = none ∧
    match d.filename with
    | none => fileFrom none o.above = none
    | some file => (∀ n ∈ inner ++ [i], n.settles = none) ∧
        fileFrom none (mid ++ d :: outer) = some file

/-! ### The template of a failure -/

/-- A failure takes the source of the nearest node above that has one. -/
theorem Occurrence.template_raise (o : Occurrence) (r : Rule) :
    (o.raise r).template = o.above.findSome? Node.source? := by
  induction o using Occurrence.induction with
  | top n => rfl
  | under n o ih =>
      rw [raise_under, Node.leave_template, ih, under_above, List.findSome?_append,
        List.findSome?_singleton]

/-- The document `d` is the nearest node above an occurrence that has a source, which is `text`.
Between the two are nodes of other kinds, and documents without a text. -/
structure Occurrence.SourcedFrom (o : Occurrence) (between : List Node) (d : Occurrence)
    (text : String) : Prop where
  above_eq : o.above = between ++ d.node :: d.above
  isDocument : d.node.kind = .root text
  text_ne : text ≠ ""
  sourceless : ∀ n ∈ between, ∀ s, n.kind = .root s → s = ""

lemma Occurrence.findSome?_source?_eq_some_iff {o : Occurrence} {template : Template} :
    o.above.findSome? Node.source? = some template ↔
      ∃ between d text, o.SourcedFrom between d text ∧ template = ⟨d.node.filename, text⟩ := by
  rw [List.findSome?_eq_some_iff]
  constructor
  · rintro ⟨between, n, outer, habove, hn, hbetween⟩
    obtain ⟨text, hkind, htext, rfl⟩ := Node.source?_eq_some_iff.1 hn
    exact ⟨between, ⟨n, outer⟩, text,
      ⟨habove, hkind, htext, fun m hm => Node.source?_eq_none_iff.1 (hbetween m hm)⟩, rfl⟩
  · rintro ⟨between, d, text, h, rfl⟩
    exact ⟨between, d.node, d.above, h.above_eq,
      Node.source?_eq_some_iff.2 ⟨text, h.isDocument, h.text_ne, rfl⟩,
      fun m hm => Node.source?_eq_none_iff.2 (h.sourceless m hm)⟩

namespace Nesting

/-- **The source of a failure.**  When a check fails, the failure has the source and the file name
of the nearest document above the first breach that has a source, and no source when there is no
such document.  A document without a text, one further out, one elsewhere in the tree, or one that
is itself the misplaced node does not count. -/
theorem visit_template {scope : Scope Node} {t : Node} {e : Failure}
    (h : (visit scope t).failure = some e) :
    ∃ o r, FirstBreach scope t o r ∧
      (∀ template, e.template = some template ↔
        ∃ between d text, o.SourcedFrom between d text ∧ template = ⟨d.node.filename, text⟩) ∧
      (e.template = none ↔ ∀ n ∈ o.above, ∀ text, n.kind = .root text → text = "") := by
  obtain ⟨o, r, hfirst, rfl⟩ := visit_failure_eq_some_iff.1 h
  refine ⟨o, r, hfirst, fun template => ?_, ?_⟩
  · rw [o.template_raise]
    exact Occurrence.findSome?_source?_eq_some_iff
  · rw [o.template_raise, List.findSome?_eq_none_iff]
    exact forall₂_congr fun n _ => Node.source?_eq_none_iff

/-- Documents in one another.  A function holds the innermost one, which it may not; the next one
has no text. -/
def nestedDocuments : Node :=
  ⟨.root "@media print", [⟨.comment, [], none, 1⟩,
    ⟨.root "@import", [⟨.root "", [⟨.importSheet "a", [⟨.function "f", [
      ⟨.root "a", [⟨.root "b", [], none, 1⟩], some "inner.scss", 5⟩], none, 4⟩], none, 3⟩],
      some "empty.scss", 1⟩], none, 1⟩,
    ⟨.root "c", [], some "later.scss", 1⟩], some "outer.scss", 1⟩

/-- The failure takes the source of the second document from outside, whose name is missing. -/
theorem visit_template_nestedDocuments :
    ∃ e, (visit none nestedDocuments).failure = some e ∧ e.template = some ⟨none, "@import"⟩ ∧
      ∃ o r, FirstBreach none nestedDocuments o r ∧
        ∃ between d, o.SourcedFrom between d "@import" := by
  have hfail : (visit none nestedDocuments).failure = some _ := rfl
  obtain ⟨o, r, hfirst, hsome, -⟩ := visit_template hfail
  obtain ⟨between, d, text, hd, heq⟩ := (hsome ⟨none, "@import"⟩).1 rfl
  obtain rfl : "@import" = text := congrArg Template.text heq
  exact ⟨_, rfl, rfl, o, r, hfirst, between, d, hd⟩

end Nesting

/-! ### When an excerpt is shown -/

lemma Occurrence.origin_raise (o : Occurrence) (r : Rule) :
    (o.raise r).origin = o.frameFrom none :=
  (List.cons.inj (o.frames_raise r)).1

/-- Source and mark are both withheld exactly when the first frame and the template disagree on
the file. -/
lemma Failure.no_excerpt_iff {e : Failure} {template : Template} {line : UInt64}
    (htemplate : e.template = some template) (hline : e.origin.line = some line) :
    (e.source? = none ∧ e.label? = none) ↔ e.origin.filename ≠ template.filename := by
  by_cases hfile : e.origin.filename = template.filename
  · simp [source?, excerpt?, htemplate, hline, hfile]
  · simp [source?, label?, excerpt?, htemplate, hline, hfile]

/-! ### File names beneath an import -/

/-- A file name that a node decides on is its own, or that of its first child. -/
lemma Node.lender_of_settles {n : Node} {file : String} (h : n.settles = some (some file)) :
    (n.tag ≠ .importSheet ∧ n.filename = some file) ∨
      ∃ c ∈ n.children, c.filename = some file := by
  unfold settles at h
  split at h
  · split at h
    · next f hfirst =>
        obtain rfl : f = file := by simpa using h
        obtain ⟨c, hc, hname⟩ := Option.bind_eq_some_iff.1 hfirst
        exact Or.inr ⟨c, List.mem_of_head? hc, hname⟩
    · split at h <;> exact absurd h (by simp)
  · next htag =>
      refine Or.inl ⟨htag, ?_⟩
      obtain ⟨f, hf, heq⟩ := Option.map_eq_some_iff.1 h
      rw [hf, Option.some.inj heq]

namespace BeneathImport

variable {t : Node} {o : Occurrence} {inner : List Node} {i : Node} {mid : List Node} {d : Node}
  {outer : List Node}

lemma mem_occurrences (h : BeneathImport o inner i mid d outer) (ho : o ∈ t.occurrences) :
    ⟨o.node, inner ++ [i]⟩ ∈ i.occurrences := by
  have hsplit : ⟨o.node, inner ++ i :: (mid ++ d :: outer)⟩ ∈ t.occurrences := h.above_eq ▸ ho
  exact Node.beneath_mem_occurrences hsplit

lemma filename_ne (h : BeneathImport o inner i mid d outer) (ho : o ∈ t.occurrences)
    {file : String} (hfile : o.node.filename = some file) : d.filename ≠ some file := by
  have hne : (⟨o.node, inner ++ [i]⟩ : Occurrence) ≠ .top i :=
    Occurrence.ne_top_of_above_ne_nil (by simp) i
  exact h.foreign _ (h.mem_occurrences ho) hne file hfile

/-- No node from the occurrence out to the import decides on the name of the document. -/
lemma settles_ne (h : BeneathImport o inner i mid d outer) (ho : o ∈ t.occurrences) {n : Node}
    (hn : n ∈ inner ++ [i]) {file : String} (hsettles : n.settles = some (some file)) :
    d.filename ≠ some file := by
  obtain ⟨front, back, hsplit⟩ := List.append_of_mem hn
  have hmem : ⟨n, back⟩ ∈ i.occurrences := by
    have hbeneath := h.mem_occurrences ho
    rw [hsplit] at hbeneath
    exact Node.ancestor_mem_occurrences hbeneath
  rcases Node.lender_of_settles hsettles with ⟨htag, hname⟩ | ⟨c, hc, hname⟩
  · -- the import itself is none of the nodes that lend their own name
    refine h.foreign _ hmem ?_ file hname
    intro htop
    obtain rfl : n = i := congrArg Occurrence.node htop
    exact htag h.isImport
  · have hne : (⟨c, n :: back⟩ : Occurrence) ≠ .top i :=
      Occurrence.ne_top_of_above_ne_nil (by simp) i
    exact h.foreign _ (Node.child_mem_occurrences hmem hc) hne file hname

/-- The frame of the occurrence agrees with the document on the file exactly when names are
missing. -/
lemma frame_eq_iff (h : BeneathImport o inner i mid d outer) (ho : o ∈ t.occurrences) :
    (o.frameFrom none).filename = d.filename ↔ SeemsToLieIn o inner i mid d outer := by
  unfold SeemsToLieIn Occurrence.frameFrom
  cases hname : o.node.filename with
  | some file => simpa using (h.filename_ne ho hname).symm
  | none =>
      rw [Option.none_or]
      cases hd : d.filename with
      | none => simp
      | some file =>
          -- the nodes out to the import are asked first, and none of them can say `file`
          have hassoc : o.above = (inner ++ [i]) ++ (mid ++ d :: outer) := by
            rw [h.above_eq, List.append_assoc, List.singleton_append]
          simp only [true_and]
          rw [hassoc, fileFrom, List.findSome?_append, ← List.findSome?_eq_none_iff]
          cases hdecision : (inner ++ [i]).findSome? Node.settles with
          | none => simp [fileFrom]
          | some decision =>
              obtain ⟨n, hn, hsettles⟩ := List.exists_of_findSome?_eq_some hdecision
              simp only [Option.some_or, Option.getD_some, reduceCtorEq, false_and, iff_false]
              rintro rfl
              exact h.settles_ne ho hn hsettles hd

end BeneathImport

namespace Nesting

/-- **When a source is shown for a node in another file.**  When a check fails at a node beneath
an import, and nothing beneath the import is named like the document whose source the failure
takes, then that source and the mark in it are withheld, unless names are missing in such a way
that the node seems to lie in the file of the document. -/
theorem no_excerpt_beneath_import_iff {t : Node} {e : Failure} {o : Occurrence} {r : Rule}
    {inner : List Node} {i : Node} {mid : List Node} {d : Node} {outer : List Node}
    (he : (check t).failure = some e) (first : FirstBreach none t o r)
    (beneath : BeneathImport o inner i mid d outer) :
    e.template = d.source? ∧
      ((e.source? = none ∧ e.label? = none) ↔ ¬ SeemsToLieIn o inner i mid d outer) := by
  obtain rfl : o.raise r = e :=
    Option.some.inj ((visit_failure_eq_some_iff.2 ⟨o, r, first, rfl⟩).symm.trans he)
  obtain ⟨template, hsource⟩ := Option.ne_none_iff_exists'.1 beneath.hasSource
  have htemplate : (o.raise r).template = some template := by
    rw [o.template_raise, beneath.above_eq, ← List.cons_append, ← List.append_assoc,
      List.findSome?_append, List.findSome?_eq_none_iff.2 beneath.nearest, Option.none_or,
      List.findSome?_cons, hsource]
  have hline : (o.raise r).origin.line = some o.node.line := by rw [o.origin_raise]; rfl
  refine ⟨htemplate.trans hsource.symm, ?_⟩
  rw [Failure.no_excerpt_iff htemplate hline, o.origin_raise,
    Node.filename_of_source?_eq_some hsource, ne_eq, beneath.frame_eq_iff first.mem]

/-- The import of a file that holds nothing but a misplaced property. -/
def strayImport (importer : Option String) : Node :=
  ⟨.importSheet "lib", [⟨.property ⟨"color", .string "red", .new⟩, [], none, 2⟩], importer, 1⟩

/-- A document with such an import, by the file names of the document and of the import. -/
def importing (document importer : Option String) : Node :=
  ⟨.root "@import \"lib\";\na \x7b b: c \x7d\n", [strayImport importer], document, 1⟩

/-- The misplaced property in the document. -/
def stray (document importer : Option String) : Occurrence :=
  ⟨⟨.property ⟨"color", .string "red", .new⟩, [], none, 2⟩,
    [strayImport importer, importing document importer]⟩

lemma firstBreach_stray (document importer : Option String) :
    FirstBreach none (importing document importer) (stray document importer) .propertyParent := by
  have heq : (importing document importer).occurrences =
      [.top (importing document importer),
        ⟨strayImport importer, [importing document importer]⟩] ++
        stray document importer :: [] := rfl
  exact .of_violation? heq rfl rfl

lemma beneathImport_stray (document importer : Option String) :
    BeneathImport (stray document importer) [] (strayImport importer) []
      (importing document importer) [] where
  above_eq := rfl
  isImport := rfl
  hasSource := by simp [importing, Node.source?]
  nearest := by simp [strayImport, Node.source?]
  foreign := by
    intro b hb hne file hfile
    rcases List.mem_cons.1 hb with rfl | hb
    · exact absurd rfl hne
    · obtain rfl := List.mem_singleton.1 hb
      exact absurd hfile (by simp)

/-- An import with a name keeps the source of the document away from what is beneath it. -/
theorem no_excerpt_beneath_named_import :
    ∃ e, (check (importing (some "main.scss") (some "main.scss"))).failure = some e ∧
      FirstBreach none (importing (some "main.scss") (some "main.scss"))
        (stray (some "main.scss") (some "main.scss")) .propertyParent ∧
      BeneathImport (stray (some "main.scss") (some "main.scss")) []
        (strayImport (some "main.scss")) []
        (importing (some "main.scss") (some "main.scss")) [] ∧
      e.source? = none ∧ e.label? = none := by
  obtain ⟨-, hiff⟩ :=
    no_excerpt_beneath_import_iff rfl (firstBreach_stray _ _) (beneathImport_stray _ _)
  refine ⟨_, rfl, firstBreach_stray _ _, beneathImport_stray _ _, hiff.2 ?_⟩
  rintro ⟨-, hundecided, -⟩
  exact absurd (hundecided _ (List.mem_singleton.2 rfl)) (by decide)

/-- **A source is shown for a node in another file.**  When neither the document nor the import
has a name, the property of the imported file is marked in the source of the document. -/
theorem excerpt_shown_beneath_import :
    ¬ ∀ (t : Node) (e : Failure) (o : Occurrence) (r : Rule) (inner : List Node) (i : Node)
      (mid : List Node) (d : Node) (outer : List Node),
      (check t).failure = some e → FirstBreach none t o r →
        BeneathImport o inner i mid d outer → e.source? = none ∧ e.label? = none := by
  intro h
  obtain ⟨hsource, -⟩ := h _ _ _ _ _ _ _ _ _ rfl (firstBreach_stray none none)
    (beneathImport_stray none none)
  exact absurd hsource (by decide)

end Nesting

end SheetCheck
