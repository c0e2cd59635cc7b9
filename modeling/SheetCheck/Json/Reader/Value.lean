import SheetCheck.Json.Reader.Bracket
import SheetCheck.Json.Reader.Literal
import SheetCheck.Json.Reader.Number

/-!
# Reading values

A value is read into memory with all that it holds.  The number of brackets that may still be
opened is counted down, and the reader stops on a bracket too many.
-/

namespace SheetCheck.Json.Reader

/-- The number of brackets that may be open at once. -/
def maxLevels : Nat := 127

/-- A scalar that starts with `c`, the next character. -/
def scalar (c : Char) : Reader Value := do
  if c = '"' then
    advance
    .string <$> string
  else if c = '-' ∨ c.isDigit then .number <$> number
  else literal c

/-- The members of an object up to the closing bracket, with values read by `value`. -/
def members (value : Reader Value) : Reader (List (String × Value)) := do
  let ms ← foldMembers (fun ms key => do
    colon
    return (key, ← value) :: ms) []
  pure ms.reverse

/-- A value whose items and members are read by `inner`, if a bracket may be opened. -/
def valueWith (inner : Option (Reader Value)) : Reader Value := do
  match ← peekToken with
  | none => stop .endBeforeValue
  | some c =>
    if c = '[' then
      match inner with
      | none => stopAhead .tooDeep
      | some v => .array <$> bracketed closeList (items v true)
    else if c = '\x7b' then
      match inner with
      | none => stopAhead .tooDeep
      | some v => .object <$> bracketed closeObject (members v)
    else scalar c

/-- A value, in which `levels` brackets may be open at once. -/
def value : Nat → Reader Value
  | 0 => valueWith none
  | levels + 1 => valueWith (some (value levels))

end SheetCheck.Json.Reader
