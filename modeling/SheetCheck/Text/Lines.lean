import SheetCheck.Text.Position

/-!
# Lines of a text

A line ends with a line feed; the last line of a text may lack it, but an empty rest after
the last line feed is no line.  A *span* is the part of a text that shows one line: its
first byte and its length, without the characters that end the line.
-/

namespace SheetCheck.Text

/-- A run of bytes in a text. -/
structure Span where
  /-- The number of bytes before the run. -/
  offset : Nat
  /-- The number of bytes in the run. -/
  length : Nat
deriving DecidableEq, Repr

/-- What follows the first `n` line feeds of a text, with the number of bytes before it, when
`offset` bytes came before the text. -/
def afterLines (n offset : Nat) : List Char → Option (Nat × List Char)
  | [] => if n = 0 then some (offset, []) else none
  | c :: cs =>
    if n = 0 then some (offset, c :: cs)
    else afterLines (if c = '\n' then n - 1 else n) (offset + c.utf8Size) cs

/-- The part of a line that is shown: up to the line feed, less the carriage returns before
it. -/
def lineContent (cs : List Char) : List Char :=
  ((cs.takeWhile (· ≠ '\n')).reverse.dropWhile (· = '\r')).reverse

/-- The span of the line with number `n`, counted from one. -/
def lineSpan (cs : List Char) (n : Nat) : Option Span :=
  if n = 0 then none
  else match afterLines (n - 1) 0 cs with
    | some (offset, rest@(_ :: _)) => some ⟨offset, byteLength (lineContent rest)⟩
    | _ => none

/-- The first line of a text without its line feed and one carriage return before that; a text
without a line feed is taken whole. -/
def firstLine (cs : List Char) : List Char :=
  let line := cs.takeWhile (· ≠ '\n')
  if line.length < cs.length && line.getLast? == some '\r' then line.dropLast else line

end SheetCheck.Text
