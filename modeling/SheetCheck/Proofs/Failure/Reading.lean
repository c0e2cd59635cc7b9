import Mathlib.Data.List.Basic
import SheetCheck.Failure.Backtrace

/-!
# Reading a trace

A trace is text without quotes: messages, numbers and file names stand in it as they are.
Nevertheless it tells its message and its frames without doubt, as long as no file name breaks a
line.  `Failure.readTrace` reads them off again (`Failure.readTrace_backtrace`), so that two
failures have the same trace exactly when they have the same message and, with the file name for
want of one put in, the same frames (`Failure.backtrace_eq_iff`).

A trace is a row of lines, first those of the message and then one for each frame
(`Failure.traceLines_backtrace`).  The ninth character of a line tells which of the two it is: in a
line of the message it belongs to the heading or to the indentation, which has the same width, and
in a line for a frame to the word that leads to the place.  On such a line the number ends before
the first blank, and all that follows the word behind it is the file, whatever it looks like.
-/

namespace SheetCheck

/-- The frame with a file, which is `default` if it has none. -/
def Frame.named (default : String) (f : Frame) : Frame := ⟨some (f.filename.getD default), f.line⟩

namespace Failure

/-- The lines of a trace, with a line feed between each two. -/
def traceLines (trace : String) : List (List Char) := trace.toList.splitOn '\n'

/-- The line that some digits tell, none without digits. -/
def lineOfDigits (ds : List Char) : Option UInt64 :=
  if ds = [] then none else some (UInt64.ofNat (Nat.ofDigitChars 10 ds 0))

/-- The frame that stands on a line behind some words. -/
def frameBehind? (words line : List Char) : Option Frame := do
  let place ← words.isPrefixOf? line
  let file ← " of ".toList.isPrefixOf? (place.dropWhile Char.isDigit)
  some ⟨some (String.ofList file), lineOfDigits (place.takeWhile Char.isDigit)⟩

/-- The words on a line for a frame in front of the number. -/
def lead (verb : String) : List Char := ("        " ++ verb ++ " line ").toList

/-- The frame that a line of a trace tells, none on a line of the message. -/
def frameOfLine? (line : List Char) : Option Frame :=
  (frameBehind? (lead "on") line).or (frameBehind? (lead "from") line)

/-- What stands before each further line of a message. -/
def margin : List Char := List.replicate 14 ' '

/-- The message and the frames that a trace tells. -/
def readTrace (trace : String) : String × List Frame :=
  let words := (traceLines trace).filter fun line => (frameOfLine? line).isNone
  (String.ofList (['\n'].intercalate (words.map (·.drop margin.length))),
    (traceLines trace).filterMap frameOfLine?)

/-- No file name among the frames of a failure breaks a line. -/
def FilesOnOneLine (e : Failure) : Prop :=
  ∀ f ∈ e.frames, ∀ file, f.filename = some file → '\n' ∉ file.toList

/-! ### Texts and their lines -/

/-- What stands in front of a text, without a line feed, belongs to its first line. -/
lemma splitOn_append {as : List Char} (h : '\n' ∉ as) (bs : List Char) :
    (as ++ bs).splitOn '\n' = (bs.splitOn '\n').modifyHead (as ++ ·) := by
  induction as with
  | nil => exact (congrFun List.modifyHead_id _).symm
  | cons a as ih =>
      obtain ⟨ha, has⟩ := not_or.1 (List.mem_cons.not.1 h)
      rw [List.cons_append, List.splitOn_cons_eq_if_modifyHead, ih has, List.modifyHead_modifyHead,
        if_neg (by simpa using Ne.symm ha)]
      rfl

/-- Lines that are put behind a text follow its own. -/
lemma splitOn_append_flatMap (as : List Char) {words : List (List Char)}
    (h : ∀ w ∈ words, '\n' ∉ w) :
    (as ++ words.flatMap ('\n' :: ·)).splitOn '\n' = as.splitOn '\n' ++ words := by
  induction words generalizing as with
  | nil => simp
  | cons w words ih =>
      obtain ⟨hw, hwords⟩ := List.forall_mem_cons.1 h
      rw [List.flatMap_cons, List.cons_append, List.splitOn_append_cons_self, ih w hwords,
        List.splitOn_eq_singleton hw, List.singleton_append]

/-- A text has one line more than line feeds. -/
lemma length_splitOn (cs : List Char) : (cs.splitOn '\n').length = cs.count '\n' + 1 := by
  induction cs with
  | nil => rfl
  | cons c cs ih =>
      rw [List.splitOn_cons_eq_if_modifyHead, List.count_cons]
      split
      · rw [List.length_cons, ih]
      · rw [List.length_modifyHead, ih]

/-! ### The lines of a message -/

/-- The lines of a message as they stand in a trace. -/
def messageLines : List (List Char) → List (List Char)
  | [] => []
  | first :: further => (heading.toList ++ first) :: further.map (margin ++ ·)

lemma splitOn_aligned (message : List Char) :
    (heading.toList ++ aligned message).splitOn '\n' = messageLines (message.splitOn '\n') := by
  have hsplit : ∀ cs : List Char, ∃ first further, cs.splitOn '\n' = first :: further ∧
      (aligned cs).splitOn '\n' = first :: further.map (margin ++ ·) := by
    intro cs
    induction cs with
    | nil => exact ⟨[], [], rfl, rfl⟩
    | cons c cs ih =>
        obtain ⟨first, further, hcs, haligned⟩ := ih
        rw [aligned, List.flatMap_cons, ← aligned, List.splitOn_cons_eq_if_modifyHead, hcs]
        by_cases hc : c = '\n'
        · -- the line feed is followed by the margin of the next line
          have hmargin : '\n' ∉ margin := by decide
          refine ⟨[], first :: further, by rw [if_pos (beq_iff_eq.2 hc)], ?_⟩
          rw [if_pos hc, ← margin, List.cons_append, List.splitOn_cons_eq_if_modifyHead,
            if_pos (beq_self_eq_true _), splitOn_append hmargin, haligned]
          rfl
        · refine ⟨c :: first, further, by rw [if_neg (by simpa using hc)]; rfl, ?_⟩
          rw [if_neg hc, List.singleton_append, List.splitOn_cons_eq_if_modifyHead,
            if_neg (by simpa using hc), haligned]
          rfl
  have hheading : '\n' ∉ heading.toList := by decide
  obtain ⟨first, further, hmessage, haligned⟩ := hsplit message
  rw [splitOn_append hheading, haligned, hmessage]
  rfl

lemma length_messageLines (lines : List (List Char)) :
    (messageLines lines).length = lines.length := by
  cases lines with
  | nil => rfl
  | cons first further => simp [messageLines]

/-- The heading is as wide as the margin. -/
lemma map_drop_messageLines (lines : List (List Char)) :
    (messageLines lines).map (·.drop margin.length) = lines := by
  cases lines with
  | nil => rfl
  | cons first further =>
      have hmargin : (fun line => line.drop margin.length) ∘ (margin ++ ·) =
          (id : List Char → List Char) := by
        funext line
        exact List.drop_left
      rw [messageLines, List.map_cons, List.map_map, hmargin, List.map_id]
      exact congrArg (· :: further) (List.drop_left' rfl)

lemma frameBehind?_eq_none {words row : List Char} {i : ℕ} (hi : i < words.length)
    (h : row[i]? ≠ words[i]?) : frameBehind? words row = none := by
  have hprefix : words.isPrefixOf? row = none := by
    rw [Option.eq_none_iff_forall_ne_some]
    intro rest hrest
    rw [← List.isPrefixOf?_eq_some_iff_append_eq.1 hrest, List.getElem?_append_left hi] at h
    exact h rfl
  rw [frameBehind?, hprefix]
  rfl

/-- The ninth character tells a line of the message from one for a frame. -/
lemma frameOfLine?_eq_none {row : List Char} (hon : row[8]? ≠ some 'o')
    (hfrom : row[8]? ≠ some 'f') : frameOfLine? row = none := by
  rw [frameOfLine?, frameBehind?_eq_none (i := 8) (by decide) hon,
    frameBehind?_eq_none (i := 8) (by decide) hfrom]
  rfl

lemma frameOfLine?_messageLines {lines : List (List Char)} {line : List Char}
    (h : line ∈ messageLines lines) : frameOfLine? line = none := by
  have hstart : ∃ start rest : List Char, line = start ++ rest ∧ start.length = 14 ∧
      start[8]? ≠ some 'o' ∧ start[8]? ≠ some 'f' := by
    cases lines with
    | nil => cases h
    | cons first further =>
        rcases List.mem_cons.1 h with rfl | h
        · exact ⟨heading.toList, first, rfl, by decide⟩
        · obtain ⟨rest, -, rfl⟩ := List.mem_map.1 h
          exact ⟨margin, rest, rfl, by decide⟩
  obtain ⟨start, rest, rfl, hlength, hon, hfrom⟩ := hstart
  have hninth : (start ++ rest)[8]? = start[8]? := List.getElem?_append_left (by omega)
  exact frameOfLine?_eq_none (hninth ▸ hon) (hninth ▸ hfrom)

/-! ### The line for a frame -/

/-- The line for a frame, without the line feed in front. -/
def frameWords (default verb : String) (f : Frame) : List Char :=
  lead verb ++ (f.lineText.toList ++ (" of ".toList ++ (f.filename.getD default).toList))

lemma toList_frameLine (default verb : String) (f : Frame) :
    (frameLine default verb f).toList = '\n' :: frameWords default verb f := by
  have hline : frameLine default verb f =
      "\n        " ++ verb ++ " line " ++ f.lineText ++ " of " ++ f.filename.getD default := rfl
  rw [hline]
  simp [frameWords, lead]

lemma toList_lineText (f : Frame) :
    f.lineText.toList = f.line.elim [] fun line => Nat.toDigits 10 line.toNat := by
  rw [Frame.lineText]
  cases f.line with
  | none => rfl
  | some line => exact Nat.toList_repr

lemma isDigit_of_mem_lineText {f : Frame} {c : Char} (h : c ∈ f.lineText.toList) :
    c.isDigit = true := by
  rw [toList_lineText] at h
  cases hline : f.line with
  | none => simp [hline] at h
  | some line =>
      rw [hline] at h
      exact Nat.isDigit_of_mem_toDigits (by decide) (by decide) h

lemma lineOfDigits_lineText (f : Frame) : lineOfDigits f.lineText.toList = f.line := by
  rw [toList_lineText]
  cases f.line with
  | none => rfl
  | some line =>
      rw [Option.elim_some, lineOfDigits, if_neg Nat.toDigits_ne_nil, Nat.ofDigitChars_ten_toDigits,
        UInt64.ofNat_toNat]

lemma not_mem_frameWords {default verb : String} {f : Frame} (hverb : '\n' ∉ lead verb)
    (hfile : '\n' ∉ (f.filename.getD default).toList) : '\n' ∉ frameWords default verb f := by
  have hline : '\n' ∉ f.lineText.toList := fun h => absurd (isDigit_of_mem_lineText h) (by decide)
  simp only [frameWords, List.mem_append, not_or]
  exact ⟨hverb, hline, by decide, hfile⟩

/-- The number ends before a blank, and the file is all that follows. -/
lemma frameBehind?_frameWords (default verb : String) (f : Frame) :
    frameBehind? (lead verb) (frameWords default verb f) = some (f.named default) := by
  have hdigits : ∀ c ∈ f.lineText.toList, c.isDigit = true := fun c => isDigit_of_mem_lineText
  have hprefix : ∀ as bs : List Char, as.isPrefixOf? (as ++ bs) = some bs := fun as bs =>
    List.isPrefixOf?_eq_some_iff_append_eq.2 rfl
  have hblank : ∀ file : List Char, (" of ".toList ++ file).takeWhile Char.isDigit = [] ∧
      (" of ".toList ++ file).dropWhile Char.isDigit = " of ".toList ++ file :=
    fun file => ⟨rfl, rfl⟩
  simp only [frameBehind?, frameWords, hprefix, List.takeWhile_append_of_pos hdigits,
    List.dropWhile_append_of_pos hdigits, hblank, List.append_nil, Option.bind_eq_bind,
    Option.bind_some, lineOfDigits_lineText, String.ofList_toList, Frame.named]

lemma frameOfLine?_on (default : String) (f : Frame) :
    frameOfLine? (frameWords default "on" f) = some (f.named default) := by
  rw [frameOfLine?, frameBehind?_frameWords, Option.some_or]

lemma frameOfLine?_from (default : String) (f : Frame) :
    frameOfLine? (frameWords default "from" f) = some (f.named default) := by
  have hninth : (frameWords default "from" f)[8]? = some 'f' := rfl
  rw [frameOfLine?, frameBehind?_eq_none (i := 8) (by decide) (by rw [hninth]; decide),
    frameBehind?_frameWords, Option.none_or]

/-! ### The lines of a trace -/

/-- The lines for the frames of a failure. -/
def placeLines (e : Failure) (default : String) : List (List Char) :=
  frameWords default "on" e.origin :: e.imports.map (frameWords default "from")

lemma map_frameOfLine?_placeLines (e : Failure) (default : String) :
    (e.placeLines default).map frameOfLine? = e.frames.map fun f => some (f.named default) := by
  have himports : frameOfLine? ∘ frameWords default "from" = fun f => some (f.named default) := by
    funext f
    exact frameOfLine?_from default f
  rw [placeLines, frames, List.map_cons, List.map_cons, List.map_map, frameOfLine?_on, himports]

lemma isSome_frameOfLine?_placeLines {e : Failure} {default : String} {line : List Char}
    (h : line ∈ e.placeLines default) : (frameOfLine? line).isSome := by
  have hread := List.mem_map_of_mem (f := frameOfLine?) h
  rw [map_frameOfLine?_placeLines] at hread
  obtain ⟨f, -, hf⟩ := List.mem_map.1 hread
  rw [← hf, Option.isSome_some]

/-- What stands for a frame is settled once its file is. -/
lemma placeLines_congr {e e' : Failure} {default : String}
    (h : e.frames.map (Frame.named default) = e'.frames.map (Frame.named default)) :
    e.placeLines default = e'.placeLines default := by
  have hwords : ∀ verb, frameWords default verb = frameWords default verb ∘ Frame.named default :=
    fun _ => rfl
  obtain ⟨horigin, himports⟩ := List.cons.inj h
  rw [placeLines, placeLines, hwords "on", hwords "from", ← List.map_map, ← List.map_map, himports,
    Function.comp_apply, Function.comp_apply, horigin]

lemma toList_backtrace (e : Failure) (default : String) :
    (e.backtrace default).toList =
      heading.toList ++ aligned e.message.toList ++
        (e.placeLines default).flatMap ('\n' :: ·) := by
  have himports : (String.join (e.imports.map (frameLine default "from"))).toList =
      (e.imports.map (frameWords default "from")).flatMap ('\n' :: ·) := by
    rw [String.toList_join, List.flatMap_map, List.flatMap_map]
    exact congrArg (e.imports.flatMap ·) (funext fun f => toList_frameLine default "from" f)
  rw [backtrace, String.toList_append, String.toList_append, String.toList_append,
    String.toList_ofList, toList_frameLine, himports, placeLines, List.flatMap_cons,
    List.append_assoc]

section OneLine

variable {e e' : Failure} {default : String}

/-- The lines of a trace are those of the message, and one for each frame. -/
lemma traceLines_backtrace (hdefault : '\n' ∉ default.toList) (he : e.FilesOnOneLine) :
    traceLines (e.backtrace default) =
      messageLines (e.message.toList.splitOn '\n') ++ e.placeLines default := by
  have hfile : ∀ f ∈ e.frames, '\n' ∉ (f.filename.getD default).toList := by
    intro f hf
    cases hname : f.filename with
    | none => exact hdefault
    | some file => exact he f hf file hname
  obtain ⟨horigin, himports⟩ := List.forall_mem_cons.1 hfile
  have hplaces : ∀ w ∈ e.placeLines default, '\n' ∉ w := by
    refine List.forall_mem_cons.2 ⟨not_mem_frameWords (by decide) horigin, ?_⟩
    rw [List.forall_mem_map]
    exact fun f hf => not_mem_frameWords (by decide) (himports f hf)
  rw [traceLines, toList_backtrace, splitOn_append_flatMap _ hplaces, splitOn_aligned]

lemma map_frameOfLine?_backtrace (hdefault : '\n' ∉ default.toList) (he : e.FilesOnOneLine) :
    (traceLines (e.backtrace default)).map frameOfLine? =
      List.replicate (e.message.toList.count '\n' + 1) none ++
        e.frames.map fun f => some (f.named default) := by
  have hmessage : (messageLines (e.message.toList.splitOn '\n')).map frameOfLine? =
      List.replicate (e.message.toList.count '\n' + 1) none := by
    rw [List.eq_replicate_iff, List.length_map, length_messageLines, length_splitOn]
    exact ⟨rfl, List.forall_mem_map.2 fun line hline => frameOfLine?_messageLines hline⟩
  rw [traceLines_backtrace hdefault he, List.map_append, hmessage, map_frameOfLine?_placeLines]

/-- A trace is read back. -/
lemma readTrace_backtrace (hdefault : '\n' ∉ default.toList) (he : e.FilesOnOneLine) :
    readTrace (e.backtrace default) = (e.message, e.frames.map (Frame.named default)) := by
  have hwords : (traceLines (e.backtrace default)).filter (fun l => (frameOfLine? l).isNone) =
      messageLines (e.message.toList.splitOn '\n') := by
    rw [traceLines_backtrace hdefault he, List.filter_append, List.filter_eq_self.2,
      List.filter_eq_nil_iff.2, List.append_nil]
    · intro line hline
      rw [Option.isNone_iff_eq_none]
      exact Option.isSome_iff_ne_none.1 (isSome_frameOfLine?_placeLines hline)
    · intro line hline
      rw [frameOfLine?_messageLines hline, Option.isNone_none]
  have hframes : (traceLines (e.backtrace default)).filterMap frameOfLine? =
      e.frames.map (Frame.named default) := by
    calc (traceLines (e.backtrace default)).filterMap frameOfLine?
        = ((traceLines (e.backtrace default)).map frameOfLine?).filterMap id := by
          rw [List.filterMap_map, Function.id_comp]
      _ = e.frames.map (Frame.named default) := by
          rw [map_frameOfLine?_backtrace hdefault he]
          simp
  rw [readTrace, hwords, hframes, map_drop_messageLines, List.intercalate_splitOn,
    String.ofList_toList]

end OneLine

/-- **A trace tells its message and its frames.**  As long as neither the file names of two failures
nor the one for want of a name break a line, the failures have the same trace exactly when they
have the same message and, with that name put in, the same frames.  Both are read off the trace.
There is one line more than the message has line feeds, and one for each frame; no line of the
message can be taken for a frame, whatever the message is. -/
theorem backtrace_eq_iff {e e' : Failure} {default : String} (hdefault : '\n' ∉ default.toList)
    (he : e.FilesOnOneLine) (he' : e'.FilesOnOneLine) :
    (e.backtrace default = e'.backtrace default ↔
        e.message = e'.message ∧
          e.frames.map (Frame.named default) = e'.frames.map (Frame.named default)) ∧
      readTrace (e.backtrace default) = (e.message, e.frames.map (Frame.named default)) ∧
      (traceLines (e.backtrace default)).length =
        e.message.toList.count '\n' + 1 + e.frames.length ∧
      (traceLines (e.backtrace default)).map frameOfLine? =
        List.replicate (e.message.toList.count '\n' + 1) none ++
          e.frames.map fun f => some (f.named default) := by
  have hmap := map_frameOfLine?_backtrace hdefault he
  refine ⟨⟨fun h => ?_, ?_⟩, readTrace_backtrace hdefault he, ?_, hmap⟩
  · have hread := congrArg readTrace h
    rw [readTrace_backtrace hdefault he, readTrace_backtrace hdefault he'] at hread
    exact Prod.mk.inj hread
  · rintro ⟨hmessage, hframes⟩
    rw [← String.toList_inj, toList_backtrace, toList_backtrace, hmessage, placeLines_congr hframes]
  · simpa using congrArg List.length hmap

/-- A message that looks like the trace of another failure. -/
def imitating : Failure :=
  ⟨"a\n        on line 1 of b", none, ⟨some " of b", none⟩, [⟨none, some 12⟩], none⟩

/-- The failure that it looks like. -/
def imitated : Failure :=
  ⟨"a", none, ⟨some "b", some 1⟩, [⟨some " of  of b", none⟩, ⟨none, some 12⟩], none⟩

/-- The two are told apart, and what each of them says is read off its trace. -/
theorem backtrace_imitating :
    '\n' ∉ "c.scss".toList ∧ imitating.FilesOnOneLine ∧ imitated.FilesOnOneLine ∧
      imitating.backtrace "c.scss" ≠ imitated.backtrace "c.scss" ∧
      readTrace (imitating.backtrace "c.scss") =
        ("a\n        on line 1 of b", [⟨some " of b", none⟩, ⟨some "c.scss", some 12⟩]) := by
  have hdefault : '\n' ∉ "c.scss".toList := by decide
  have he : imitating.FilesOnOneLine := by simp [FilesOnOneLine, frames, imitating]
  have he' : imitated.FilesOnOneLine := by simp [FilesOnOneLine, frames, imitated]
  obtain ⟨hiff, hread, -, -⟩ := backtrace_eq_iff hdefault he he'
  exact ⟨hdefault, he, he', fun h => absurd (hiff.1 h).1 (by decide), hread⟩

end Failure

end SheetCheck
