import SheetCheck.Json.Reader.Basic

/-!
# Reading the three literals
-/

namespace SheetCheck.Json.Reader

/-- Takes the characters of a word one by one. -/
def word : List Char → Reader Unit
  | [] => pure ()
  | c :: cs => do
    match ← peek with
    | none => stop .endBeforeValue
    | some d =>
      if d = c then
        advance
        word cs
      else stopAhead .literalExpected

/-- The literal that starts with `c`, the next character; nothing else can start a value here. -/
def literal (c : Char) : Reader Value := do
  match c with
  | 'n' =>
    word ['n', 'u', 'l', 'l']
    pure .null
  | 't' =>
    word ['t', 'r', 'u', 'e']
    pure (.boolean true)
  | 'f' =>
    word ['f', 'a', 'l', 's', 'e']
    pure (.boolean false)
  | _ => stopAhead .valueExpected

end SheetCheck.Json.Reader
