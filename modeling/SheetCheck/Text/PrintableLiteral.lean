import SheetCheck.Text.Printable

/-!
# Quoted literals of printable characters

A text is shown in a message between double quotes.  Printable characters stand for
themselves; quotes, backslashes and the common control characters have short escapes, and
every other character is written by its code point in braces.
-/

namespace SheetCheck.Text.PrintableLiteral

/-- How one character is shown. -/
def encodeChar (c : Char) : List Char :=
  match c with
  | '"' => ['\\', '"']
  | '\\' => ['\\', '\\']
  | '\n' => ['\\', 'n']
  | '\r' => ['\\', 'r']
  | '\t' => ['\\', 't']
  | _ =>
    if c.toNat = 0 then ['\\', '0']
    else if isPrintable c then [c]
    else '\\' :: 'u' :: '\x7b' :: Nat.toDigits 16 c.toNat ++ ['\x7d']

/-- The literal that shows a text. -/
def encode (cs : List Char) : List Char :=
  '"' :: cs.flatMap encodeChar ++ ['"']

end SheetCheck.Text.PrintableLiteral
