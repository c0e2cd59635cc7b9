import SheetCheck.Json.Numeral
import SheetCheck.Json.Reader.Basic

/-!
# Reading numbers

The form of a number is read first and its value is computed from that.  A number nobody wants
is only checked for its form.
-/

namespace SheetCheck.Json.Reader

/-- One digit or more; `atEnd` is the cause when the text ends instead. -/
def digits (atEnd : Cause) : Reader (List Char) := do
  let ds ← takeWhile Char.isDigit
  if ds.isEmpty then
    match ← peek with
    | none => stop atEnd
    | some _ => stopAhead .badNumber
  else pure ds

/-- The digits before the point, among which a zero in front stands alone. -/
def wholeDigits (atEnd : Cause) : Reader (List Char) := do
  match ← peek with
  | some '0' =>
    advance
    match ← peek with
    | some c => if c.isDigit then stopAhead .badNumber else pure ['0']
    | none => pure ['0']
  | _ => digits atEnd

/-- A fraction, if one follows. -/
def fraction (atEnd : Cause) : Reader (Option (List Char)) := do
  if (← peek) = some '.' then
    advance
    some <$> digits atEnd
  else pure none

/-- Whether a minus sign follows; a sign is taken, but a plus sign only where `plus` allows it. -/
def sign (plus : Bool) : Reader Bool := do
  match ← peek with
  | some '-' =>
    advance
    pure true
  | some '+' =>
    if plus then advance
    pure false
  | _ => pure false

/-- An exponent, if one follows. -/
def exponent (atEnd : Cause) : Reader (Option (Bool × List Char)) := do
  match ← peek with
  | some c =>
    if c = 'e' ∨ c = 'E' then
      advance
      let below ← sign true
      return some (below, ← digits atEnd)
    else pure none
  | none => pure none

/-- A number as it is written. -/
def numeral (atEnd : Cause) : Reader Numeral := do
  let negative ← sign false
  let whole ← wholeDigits atEnd
  let fraction ← fraction atEnd
  let exponent ← exponent atEnd
  pure ⟨negative, whole, fraction, exponent⟩

/-- A number. -/
def number : Reader Number := do
  let n ← numeral .endBeforeValue
  match n.value with
  | .ok v => pure v
  | .error (cause, behind) => fun i => .error ⟨cause, some (i.left + behind)⟩ i

/-- Takes a number nobody wants. -/
def skipNumber : Reader Unit := do
  let _ ← numeral .badNumber
  pure ()

end SheetCheck.Json.Reader
