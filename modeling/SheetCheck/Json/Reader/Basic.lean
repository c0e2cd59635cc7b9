import SheetCheck.Json.Fault

/-!
# Reading from a text

A `Reader` takes characters from the front of a text and answers a value, or a fault together
with the text that was left when it stopped.  A fault is placed either where the reader stands
(`stop`) or one byte further on (`stopAhead`), on the byte that could not be taken.
-/

namespace SheetCheck.Json

/-- The part of a text that has not been read. -/
structure Input where
  /-- The characters to come. -/
  rest : List Char
  /-- The number of their bytes. -/
  left : Nat

namespace Input

/-- A text of which nothing has been read. -/
def ofList (cs : List Char) : Input := ⟨cs, Text.byteLength cs⟩

/-- The input without the characters at its front that satisfy `p`. -/
def dropWhile (p : Char → Bool) : List Char → Nat → Input
  | [], left => ⟨[], left⟩
  | c :: cs, left => if p c then dropWhile p cs (left - c.utf8Size) else ⟨c :: cs, left⟩

end Input

/-- A reader of values of type `α`. -/
abbrev Reader (α : Type) := EStateM Fault Input α

namespace Reader

/-- Stops at the place where the reader stands. -/
def stop (cause : Cause) : Reader α := fun i => .error ⟨cause, some i.left⟩ i

/-- Stops on the next byte, or at the end of the text. -/
def stopAhead (cause : Cause) : Reader α := fun i => .error ⟨cause, some (i.left - 1)⟩ i

/-- Stops for a fault whose place is still open. -/
def stopUnplaced (cause : Cause) : Reader α := fun i => .error ⟨cause, none⟩ i

/-- The answer of a computation that knows no places. -/
def ofExcept : Except Cause α → Reader α
  | .ok a => pure a
  | .error cause => stopUnplaced cause

/-- The next character, which is not taken. -/
def peek : Reader (Option Char) := fun i => .ok i.rest.head? i

/-- Takes the next character, if there is one. -/
def advance : Reader Unit := fun i =>
  match i.rest with
  | [] => .ok () i
  | c :: cs => .ok () ⟨cs, i.left - c.utf8Size⟩

/-- Takes the characters that satisfy `p`. -/
def skipWhile (p : Char → Bool) : Reader Unit := fun i => .ok () (Input.dropWhile p i.rest i.left)

/-- Takes and answers the characters that satisfy `p`. -/
def takeWhile (p : Char → Bool) : Reader (List Char) := fun i =>
  .ok (i.rest.takeWhile p) (Input.dropWhile p i.rest i.left)

/-- Whether a character is white space between two tokens. -/
def isSpace (c : Char) : Bool :=
  c == ' ' || c == '\n' || c == '\t' || c == '\r'

/-- Takes white space. -/
def skipSpace : Reader Unit := skipWhile isSpace

/-- Takes white space and shows what follows it. -/
def peekToken : Reader (Option Char) := do
  skipSpace
  peek

/-- Repeats `step` on a state until it answers none, at most `n` times. -/
def iterate (step : σ → Reader (Option σ)) : Nat → σ → Reader σ
  | 0, s => pure s
  | n + 1, s => do
    match ← step s with
    | none => pure s
    | some s' => iterate step n s'

/-- Repeats `step` on a state until it answers none.  A step that answers some state takes at
least one character, so there are no more steps than bytes, and one to stop. -/
def repeatStep (step : σ → Reader (Option σ)) (s : σ) : Reader σ := fun i =>
  iterate step (i.left + 1) s i

/-- Runs a reader on a whole text. -/
def run (r : Reader α) (source : String) : Except Refusal α :=
  match r (Input.ofList source.toList) with
  | .ok a _ => .ok a
  | .error f _ => .error (.ofFault source.toList f)

/-- Runs a reader on a whole text, after which only white space may come. -/
def runAll (r : Reader α) (source : String) : Except Refusal α :=
  run (do
    let a ← r
    match ← peekToken with
    | none => pure a
    | some _ => stopAhead .trailingCharacters) source

end Reader

end SheetCheck.Json
