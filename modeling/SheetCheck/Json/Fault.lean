import SheetCheck.Json.Printer
import SheetCheck.Text.Position
import SheetCheck.Text.PrintableLiteral

/-!
# Faults of JSON input

What can be wrong with a text that should hold some value: it is no JSON, it ends early, or
it is JSON of another shape than was wanted.  `Cause` lists the cases, `Cause.message` words
them, and a `Fault` also tells the place.
-/

namespace SheetCheck.Json

/-- What was met where something else was wanted. -/
inductive Found where
  | null
  | boolean (b : Bool)
  | number (n : Number)
  | string (s : String)
  | sequence
  | map

namespace Found

/-- The kind of thing a value is. -/
def ofValue : Value → Found
  | .null => null
  | .boolean b => boolean b
  | .number n => number n
  | .string s => string s
  | .array _ => sequence
  | .object _ => map

/-- The words for what was met. -/
def describe : Found → String
  | null => "null"
  | boolean b => s!"boolean `{b}`"
  | number n@(.integer _) => s!"integer `{String.ofList n.text}`"
  | number n@(.float _) => s!"floating point `{String.ofList n.text}`"
  | string s => s!"string {String.ofList (Text.PrintableLiteral.encode s.toList)}"
  | sequence => "sequence"
  | map => "map"

end Found

/-- The class of a fault. -/
inductive Category where
  /-- The text is no JSON. -/
  | malformed
  /-- The text ended where more had to come. -/
  | cutShort
  /-- The JSON is fine, but it is no value of the wanted shape. -/
  | mismatch
deriving DecidableEq, Repr

/-- What is wrong. -/
inductive Cause where
  -- the text ended
  | endInList
  | endInObject
  | endInString
  | endBeforeValue
  -- the text is no JSON
  | colonExpected
  | listSeparatorExpected
  | objectSeparatorExpected
  | literalExpected
  | valueExpected
  | badEscape
  | badNumber
  | numberOutOfRange
  | controlCharacter
  | keyNotString
  | loneSurrogate
  | surrogateUnpaired
  | trailingComma
  | trailingCharacters
  | tooDeep
  -- the JSON has another shape
  | wrongType (found : Found) (wanted : String)
  | wrongValue (found : Found) (wanted : String)
  | wrongLength (length : Nat) (wanted : String)
  | unknownVariant (name : String) (known : List String)
  | missingField (name : String)
  | duplicateField (name : String)

namespace Cause

/-- The names of variants, quoted and listed. -/
def listed : List String → String
  | [a, b] => s!"`{a}` or `{b}`"
  | names => "one of " ++ ", ".intercalate (names.map fun a => s!"`{a}`")

/-- The message for a cause. -/
def message : Cause → String
  | endInList => "EOF while parsing a list"
  | endInObject => "EOF while parsing an object"
  | endInString => "EOF while parsing a string"
  | endBeforeValue => "EOF while parsing a value"
  | colonExpected => "expected `:`"
  | listSeparatorExpected => "expected `,` or `]`"
  | objectSeparatorExpected => "expected `,` or `\x7d`"
  | literalExpected => "expected ident"
  | valueExpected => "expected value"
  | badEscape => "invalid escape"
  | badNumber => "invalid number"
  | numberOutOfRange => "number out of range"
  | controlCharacter => "control character (\\u0000-\\u001F) found while parsing a string"
  | keyNotString => "key must be a string"
  | loneSurrogate => "lone leading surrogate in hex escape"
  | surrogateUnpaired => "unexpected end of hex escape"
  | trailingComma => "trailing comma"
  | trailingCharacters => "trailing characters"
  | tooDeep => "recursion limit exceeded"
  | wrongType found wanted => s!"invalid type: {found.describe}, expected {wanted}"
  | wrongValue found wanted => s!"invalid value: {found.describe}, expected {wanted}"
  | wrongLength n wanted => s!"invalid length {n}, expected {wanted}"
  | unknownVariant name known => s!"unknown variant `{name}`, expected {listed known}"
  | missingField name => s!"missing field `{name}`"
  | duplicateField name => s!"duplicate field `{name}`"

/-- The class of a cause. -/
def category : Cause → Category
  | endInList | endInObject | endInString | endBeforeValue => .cutShort
  | wrongType .. | wrongValue .. | wrongLength .. | unknownVariant .. | missingField _
  | duplicateField _ => .mismatch
  | _ => .malformed

end Cause

/-- A fault met while a text is read: its cause and the number of bytes that follow its place, or
no place when it was found in a value that had been read before. -/
structure Fault where
  cause : Cause
  left : Option Nat

/-- The fault with a place, which is `left` bytes before the end unless it has one. -/
def Fault.locate (f : Fault) (left : Nat) : Fault :=
  { f with left := f.left.or (some left) }

/-- Why a text could not be read, and where. -/
structure Refusal where
  cause : Cause
  position : Text.Position

namespace Refusal

/-- The refusal of a text for a fault. -/
def ofFault (source : List Char) (f : Fault) : Refusal :=
  let size := Text.byteLength source
  ⟨f.cause, Text.Position.start.afterBytes (size - f.left.getD 0) source⟩

/-- The message with its place. -/
def message (r : Refusal) : String :=
  r.cause.message ++ r.position.suffix

end Refusal

end SheetCheck.Json
