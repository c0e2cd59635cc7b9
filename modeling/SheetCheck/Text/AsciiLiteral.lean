/-!
# Quoted literals in printable ASCII

A text is written between double quotes with printable ASCII characters only.  The common
control characters have named escapes, the other ASCII ones two hexadecimal digits, and a
character beyond ASCII four digits or, beyond the basic plane, digits in braces.  A hash sign
is escaped where a reader of such literals would take it for the start of an interpolation.
-/

namespace SheetCheck.Text.AsciiLiteral

/-- The characters that would open an interpolation after a hash sign. -/
def opensInterpolation (c : Char) : Bool :=
  c == '\x7b' || c == '$' || c == '@'

/-- The hexadecimal digits of a number in upper case, at least `width` of them. -/
def hexDigits (width n : Nat) : List Char :=
  let digits := (Nat.toDigits 16 n).map Char.toUpper
  List.replicate (width - digits.length) '0' ++ digits

/-- The letter that stands for a control character after a backslash, where it has one. -/
def letterOf? (c : Char) : Option Char :=
  match c.toNat with
  | 0x07 => some 'a'
  | 0x08 => some 'b'
  | 0x09 => some 't'
  | 0x0A => some 'n'
  | 0x0B => some 'v'
  | 0x0C => some 'f'
  | 0x0D => some 'r'
  | 0x1B => some 'e'
  | _ => none

/-- How one character is written when `next` follows it. -/
def encodeChar (c : Char) (next : Option Char) : List Char :=
  if c = '"' ∨ c = '\\' then ['\\', c]
  else if c = '#' then if next.any opensInterpolation then ['\\', '#'] else ['#']
  else match letterOf? c with
    | some l => ['\\', l]
    | none =>
      if c.toNat < 0x20 ∨ c.toNat = 0x7F then '\\' :: 'x' :: hexDigits 2 c.toNat
      else if c.toNat < 0x80 then [c]
      else if c.toNat ≤ 0xFFFF then '\\' :: 'u' :: hexDigits 4 c.toNat
      else '\\' :: 'u' :: '\x7b' :: hexDigits 1 c.toNat ++ ['\x7d']

/-- What stands between the quotes. -/
def body : List Char → List Char
  | [] => []
  | c :: cs => encodeChar c cs.head? ++ body cs

/-- The literal that stands for a text. -/
def encode (cs : List Char) : List Char :=
  '"' :: body cs ++ ['"']

end SheetCheck.Text.AsciiLiteral
