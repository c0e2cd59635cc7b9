/-!
# JSON values

A number is kept as an integer or as a floating point number, as its text was written.  The
members of an object keep their order, and a name may occur more than once.
-/

namespace SheetCheck.Json

/-- A number. -/
inductive Number where
  | integer (n : Int)
  | float (x : Float)

/-- A JSON value. -/
inductive Value where
  | null
  | boolean (b : Bool)
  | number (n : Number)
  | string (s : String)
  | array (items : List Value)
  | object (members : List (String × Value))
deriving Inhabited

namespace Value

/-- A natural number as a value. -/
def ofNat (n : Nat) : Value := .number (.integer n)

/-- A value that may be missing, which is then `null`. -/
def ofOption (f : α → Value) : Option α → Value
  | none => null
  | some a => f a

/-- A text that may be missing. -/
def ofString? : Option String → Value := ofOption string

/-- The value of the first member of an object with the name `key`. -/
def member? (key : String) : Value → Option Value
  | object members => members.lookup key
  | _ => none

end Value

end SheetCheck.Json
