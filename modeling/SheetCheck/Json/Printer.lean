import SheetCheck.Json.Value
import SheetCheck.Decimal.Shortest

/-!
# Compact JSON text

A value is written without white space.  In strings only what must be escaped is: quotes,
backslashes and control characters below the space.
-/

namespace SheetCheck.Json

/-- Numbers have no exponent from `0.00001` up to sixteen digits; an exponent has a sign and one
digit or more. -/
def numberLayout : Decimal.Layout := ⟨-5, 15, 1⟩

/-- How a character is written in a string. -/
def escapeChar (c : Char) : List Char :=
  match c.toNat with
  | 0x22 => ['\\', '"']
  | 0x5C => ['\\', '\\']
  | 0x08 => ['\\', 'b']
  | 0x09 => ['\\', 't']
  | 0x0A => ['\\', 'n']
  | 0x0C => ['\\', 'f']
  | 0x0D => ['\\', 'r']
  | n =>
    if n < 0x20 then ['\\', 'u', '0', '0', Nat.digitChar (n / 16), Nat.digitChar (n % 16)]
    else [c]

/-- A string between its quotes. -/
def quote (s : String) : List Char :=
  '"' :: s.toList.flatMap escapeChar ++ ['"']

/-- An integer in decimal. -/
def integerText (n : Int) : List Char :=
  if n < 0 then '-' :: Nat.toDigits 10 n.natAbs else Nat.toDigits 10 n.natAbs

/-- The text of a number. -/
def Number.text : Number → List Char
  | .integer n => integerText n
  | .float x => numberLayout.float x

namespace Value

mutual

/-- The text of a value, in front of `rest`. -/
def write : Value → List Char → List Char
  | null, rest => 'n' :: 'u' :: 'l' :: 'l' :: rest
  | boolean true, rest => 't' :: 'r' :: 'u' :: 'e' :: rest
  | boolean false, rest => 'f' :: 'a' :: 'l' :: 's' :: 'e' :: rest
  | number n, rest => n.text ++ rest
  | string s, rest => quote s ++ rest
  | array [], rest => '[' :: ']' :: rest
  | array (v :: vs), rest => '[' :: write v (writeItems vs (']' :: rest))
  | object [], rest => '\x7b' :: '\x7d' :: rest
  | object ((key, v) :: ms), rest =>
    '\x7b' :: (quote key ++ ':' :: write v (writeMembers ms ('\x7d' :: rest)))

/-- The texts of further items of an array, each behind a comma, in front of `rest`. -/
def writeItems : List Value → List Char → List Char
  | [], rest => rest
  | v :: vs, rest => ',' :: write v (writeItems vs rest)

/-- The texts of further members of an object, each behind a comma, in front of `rest`. -/
def writeMembers : List (String × Value) → List Char → List Char
  | [], rest => rest
  | (key, v) :: ms, rest => ',' :: (quote key ++ ':' :: write v (writeMembers ms rest))

end

/-- The text of a value. -/
def text (v : Value) : List Char := v.write []

/-- The text of a value, as a string. -/
def compact (v : Value) : String :=
  String.ofList v.text

end Value

end SheetCheck.Json
