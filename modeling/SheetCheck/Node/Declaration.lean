import SheetCheck.Node.Basic
import SheetCheck.Text.AsciiLiteral
import SheetCheck.Text.Blank

/-!
# Declarations

A property is shown the way it was written, in the new style `name: value` or in the old one
`:name value`.  A property in the old style without a value is most often a selector that
lacks its escape, and `selectorHint?` shows how to write it as one.
-/

namespace SheetCheck

/-- A property as it was written, without blanks at its end. -/
def Property.declaration (p : Property) : String :=
  String.ofList <| Text.trimEnd <|
    match p.style with
    | .old => ':' :: p.name.toList ++ ' ' :: p.value.text.toList
    | .new => p.name.toList ++ ':' :: ' ' :: p.value.text.toList

/-- Whether a property may be meant as a selector: it is in the old style and its value is an empty
word. -/
def Property.looksLikeSelector (p : Property) : Bool :=
  p.style = .old ∧ p.value = .string ""

/-- The advice for a declaration that may be meant as a selector. -/
def selectorAdvice (declaration : String) : String :=
  let literal := String.ofList (Text.AsciiLiteral.encode declaration.toList)
  s!"\nIf {literal} should be a selector, use \"\\{declaration}\" instead."

/-- The hint for a misplaced node that may be meant as a selector. -/
def Node.selectorHint? (n : Node) : Option String :=
  match n.kind with
  | .property p => if p.looksLikeSelector then some (selectorAdvice p.declaration) else none
  | _ => none

end SheetCheck
