import SheetCheck.Json.Reader.Basic

/-!
# Reading strings

Strings are read behind their opening quote.  A string whose content nobody wants is only
checked for its form: there, a half of a surrogate pair may stand alone.
-/

namespace SheetCheck.Json.Reader

/-- The value of a hexadecimal digit. -/
def hexDigit? (c : Char) : Option Nat :=
  if c.isDigit then some (c.toNat - 0x30)
  else if 'a' ≤ c ∧ c ≤ 'f' then some (c.toNat - 0x57)
  else if 'A' ≤ c ∧ c ≤ 'F' then some (c.toNat - 0x37)
  else none

/-- The number that hexadecimal digits write. -/
def hexNumber? (cs : List Char) : Option Nat :=
  cs.foldlM (fun n c => (hexDigit? c).map (16 * n + ·)) 0

/-- The next four bytes, as the hexadecimal number of a UTF-16 unit. -/
def hexUnit : Reader Nat := fun i =>
  match i.rest with
  | a :: b :: c :: d :: rest =>
    match hexNumber? [a, b, c, d] with
    | some n => .ok n ⟨rest, i.left - 4⟩
    | none => refuse i
  | _ => refuse i
where
  /-- The place of the fault is behind the four bytes, if there are four. -/
  refuse (i : Input) : EStateM.Result Fault Input Nat :=
    if i.left < 4 then .error ⟨.endInString, some 0⟩ i
    else .error ⟨.badEscape, some (i.left - 4)⟩ i

/-- Takes the character `c` of the start of a second UTF-16 unit. -/
def unitStart (c : Char) : Reader Unit := do
  match ← peek with
  | none => stop .endInString
  | some d => if d = c then advance else stopAhead .surrogateUnpaired

/-- The character that a UTF-16 unit starts, which may take a second unit. -/
def surrogatePair (unit : Nat) : Reader Char := do
  if 0xDC00 ≤ unit ∧ unit ≤ 0xDFFF then stop .loneSurrogate
  else if unit < 0xD800 ∨ 0xDBFF < unit then pure (Char.ofNat unit)
  else
    unitStart '\\'
    unitStart 'u'
    let second ← hexUnit
    if second < 0xDC00 ∨ 0xDFFF < second then stop .loneSurrogate
    else pure (Char.ofNat (0x10000 + (unit - 0xD800) * 0x400 + (second - 0xDC00)))

/-- The character for the letter of a short escape. -/
def shortEscape? (c : Char) : Option Char :=
  match c with
  | '"' => some '"'
  | '\\' => some '\\'
  | '/' => some '/'
  | 'b' => some '\x08'
  | 'f' => some '\x0c'
  | 'n' => some '\n'
  | 'r' => some '\r'
  | 't' => some '\t'
  | _ => none

/-- The character of an escape, read behind its backslash; `unit` reads on from a UTF-16
unit. -/
def escape (unit : Nat → Reader Char) : Reader Char := do
  match ← peek with
  | none => stop .endInString
  | some 'u' =>
    advance
    unit (← hexUnit)
  | some c =>
    match shortEscape? c with
    | some d =>
      advance
      pure d
    | none => stopAhead .badEscape

/-- The next character of a string, or none behind its closing quote.  `unit` reads on from a
UTF-16 unit, and `control` stops on a control character. -/
def stringChar (unit : Nat → Reader Char) (control : Reader (Option Char)) :
    Reader (Option Char) := do
  match ← peek with
  | none => stop .endInString
  | some '"' =>
    advance
    pure none
  | some '\\' =>
    advance
    some <$> escape unit
  | some c =>
    if c.toNat < 0x20 then control
    else
      advance
      pure (some c)

/-- A string, read behind its opening quote. -/
def string : Reader String := do
  let step (cs : List Char) : Reader (Option (List Char)) := do
    pure ((← stringChar surrogatePair (stopAhead .controlCharacter)).map (· :: cs))
  let cs ← repeatStep step []
  pure (String.ofList cs.reverse)

/-- Takes a string nobody wants, read behind its opening quote. -/
def skipString : Reader Unit :=
  repeatStep (fun _ => do
    pure ((← stringChar (fun _ => pure ' ') (stop .controlCharacter)).map fun _ => ())) ()

end SheetCheck.Json.Reader
