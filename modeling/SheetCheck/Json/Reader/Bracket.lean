import SheetCheck.Json.Reader.String

/-!
# Reading arrays and objects

What stands between two brackets is read item by item or member by member.  Once the content has
been read, or could not be, the closing bracket is looked for: a fault that has no place yet gets
the place where that search stopped.
-/

namespace SheetCheck.Json.Reader

/-- Whether an item follows in an array, in front of which a comma is taken unless it is the
`first`.  A closing bracket is not taken. -/
def nextItem (first : Bool) : Reader Bool := do
  match ← peekToken with
  | none => stop .endInList
  | some ']' => pure false
  | some c =>
    if first then pure true
    else if c = ',' then
      advance
      match ← peekToken with
      | none => stop .endBeforeValue
      | some ']' => stopAhead .trailingComma
      | some _ => pure true
    else stopAhead .listSeparatorExpected

/-- The name of the next member of an object, if one follows, in front of which a comma is taken
unless it is the `first`.  A closing bracket is not taken. -/
def nextKey (first : Bool) : Reader (Option String) := do
  match ← peekToken with
  | none => stop .endInObject
  | some '\x7d' => pure none
  | some c =>
    if first then key c
    else if c = ',' then
      advance
      match ← peekToken with
      | none => stop .endBeforeValue
      | some '\x7d' => stopAhead .trailingComma
      | some c => key c
    else stopAhead .objectSeparatorExpected
where
  /-- A name that starts with `c`. -/
  key (c : Char) : Reader (Option String) := do
    if c = '"' then
      advance
      some <$> string
    else stopAhead .keyNotString

/-- Takes the colon between a name and its value. -/
def colon : Reader Unit := do
  match ← peekToken with
  | none => stop .endInObject
  | some ':' => advance
  | some _ => stopAhead .colonExpected

/-- Takes the end of an array. -/
def closeList : Reader Unit := do
  match ← peekToken with
  | none => stop .endInList
  | some ']' => advance
  | some ',' =>
    advance
    match ← peekToken with
    | some ']' => stopAhead .trailingComma
    | _ => stopAhead .trailingCharacters
  | some _ => stopAhead .trailingCharacters

/-- Takes the end of an object. -/
def closeObject : Reader Unit := do
  match ← peekToken with
  | none => stop .endInObject
  | some '\x7d' => advance
  | some ',' => stopAhead .trailingComma
  | some _ => stopAhead .trailingCharacters

/-- Takes an opening bracket, reads the content with `body` and takes the closing bracket with
`close`. -/
def bracketed (close : Reader Unit) (body : Reader α) : Reader α := do
  advance
  fun i => match body i with
    | .ok a j =>
      match close j with
      | .ok _ k => .ok a k
      | .error f k => .error f k
    | .error f j =>
      match close j with
      | .ok _ k | .error _ k => .error (f.locate k.left) k

/-- Reads the items of an array up to the closing bracket; `item` takes an item and adds it to a
state. -/
def foldItems (item : σ → Reader σ) (first : Bool) (s : σ) : Reader σ := do
  let (_, s) ← repeatStep (fun (first, s) => do
    if ← nextItem first then return some (false, ← item s) else return none) (first, s)
  pure s

/-- Reads the members of an object up to the closing bracket; `member` is given the name, takes the
colon and the value and adds the member to a state. -/
def foldMembers (member : σ → String → Reader σ) (s : σ) : Reader σ := do
  let (_, s) ← repeatStep (fun (first, s) => do
    match ← nextKey first with
    | some key => return some (false, ← member s key)
    | none => return none) (true, s)
  pure s

/-- The items of an array up to the closing bracket. -/
def items (item : Reader α) (first : Bool) : Reader (List α) := do
  let as ← foldItems (fun as => do return (← item) :: as) first []
  pure as.reverse

end SheetCheck.Json.Reader
