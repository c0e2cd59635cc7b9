import SheetCheck.Json.Reader.Bracket
import SheetCheck.Json.Reader.Number
import SheetCheck.Json.Reader.Literal

/-!
# Values nobody wants

A value under a name nobody knows is taken without being kept.  It may be nested to any depth,
and its numbers may be out of range.
-/

namespace SheetCheck.Json.Reader

/-- A bracket that has been opened. -/
inductive Opened where
  | list
  | object
deriving DecidableEq, Repr

namespace Opened

/-- The character that closes the bracket. -/
def closing : Opened → Char
  | list => ']'
  | object => '\x7d'

/-- The cause when the text ends within the bracket. -/
def atEnd : Opened → Cause
  | list => .endInList
  | object => .endInObject

/-- The cause when neither a comma nor the closing bracket follows a value. -/
def unseparated : Opened → Cause
  | list => .listSeparatorExpected
  | object => .objectSeparatorExpected

end Opened

/-- Takes a scalar, or an opening bracket.  Answers the brackets that are open then, the innermost
first, and whether a value has just ended. -/
def skipHead (opened : List Opened) : Reader (List Opened × Bool) := do
  match ← peekToken with
  | none => stop .endBeforeValue
  | some c =>
    if c = '[' then
      advance
      pure (.list :: opened, false)
    else if c = '\x7b' then
      advance
      pure (.object :: opened, false)
    else
      if c = '"' then
        advance
        skipString
      else if c = '-' ∨ c.isDigit then skipNumber
      else
        let _ ← literal c
      pure (opened, true)

/-- Takes a name and the colon behind it. -/
def skipKey : Reader Unit := do
  match ← peekToken with
  | none => stop .endInObject
  | some '"' =>
    advance
    skipString
    colon
  | some _ => stopAhead .keyNotString

/-- Takes the start of a value within the bracket `b`, with its name in an object. -/
def skipEntry (b : Opened) (outer : List Opened) : Reader (List Opened × Bool) := do
  if b = .object then skipKey
  skipHead (b :: outer)

/-- Takes a closing bracket or what comes before it; stops when no bracket is open. -/
def skipStep : List Opened × Bool → Reader (Option (List Opened × Bool))
  | ([], _) => pure none
  | (b :: outer, ended) => do
    match ← peekToken with
    | none => stop b.atEnd
    | some c =>
      if c = b.closing then
        advance
        pure (some (outer, true))
      else if !ended then some <$> skipEntry b outer
      else if c = ',' then
        advance
        some <$> skipEntry b outer
      else stopAhead b.unseparated

/-- Takes a value. -/
def skipValue : Reader Unit := do
  let _ ← repeatStep skipStep (← skipHead [])
  pure ()

end SheetCheck.Json.Reader
