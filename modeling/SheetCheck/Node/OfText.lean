import SheetCheck.Json.Reader.Skip
import SheetCheck.Json.Reader.Value
import SheetCheck.Node.Met

/-!
# Trees from JSON text

A tree is read from its text in one pass, so that the fault told is the first one in the text.
The kind of a node is the only part that is read into memory before it is understood.  Values
under names nobody knows are passed over.
-/

namespace SheetCheck

open Json (Cause Found Reader Value)
open Json.Reader

/-- Reads the scalar that starts with `c`, or looks at the bracket `c`, where something else was
`wanted`. -/
def unwanted (c : Char) (wanted : String) : Reader α := do
  if c = '[' then stop (.wrongType .sequence wanted)
  else if c = '\x7b' then stop (.wrongType .map wanted)
  else
    let v ← scalar c
    stop (.wrongType (.ofValue v) wanted)

namespace Kind

/-- Reads a tag. -/
def readTag : Reader Tag := do
  match ← peekToken with
  | none => stop .endBeforeValue
  | some '"' =>
    advance
    let name ← string
    match tagNamed name with
    | .ok tag => pure tag
    | .error cause => stop cause
  | some c => unwanted c "variant identifier"

/-- Reads the members of a kind: its tag, and all else into memory. -/
def readMembers (value : Reader Value) : Reader (Tag × Payload) := do
  let (tag, others) ← foldMembers (fun (tag, others) key => do
    if key = "type" then
      if Option.isSome tag then stopUnplaced (.duplicateField key)
      colon
      return (some (← readTag), others)
    else
      colon
      return (tag, (key, ← value) :: others)) (none, [])
  match tag with
  | some tag => pure (tag, .members others.reverse)
  | none => stopUnplaced (.missingField "type")

/-- Reads the items of a kind: its tag, and all else into memory. -/
def readItems (value : Reader Value) : Reader (Tag × Payload) := do
  if ← nextItem true then
    let tag ← readTag
    return (tag, .items (← items value false))
  else stopUnplaced (.missingField "type")

/-- Reads a kind, in which `levels` brackets may be open at once.  What belongs to the tag is
looked at when all of it has been read. -/
def read (levels : Nat) : Reader Kind := do
  match ← peekToken with
  | none => stop .endBeforeValue
  | some c =>
    let (tag, p) ←
      if c = '[' then
        match levels with
        | 0 => stopAhead .tooDeep
        | inner + 1 => bracketed closeList (readItems (value inner))
      else if c = '\x7b' then
        match levels with
        | 0 => stopAhead .tooDeep
        | inner + 1 => bracketed closeObject (readMembers (value inner))
      else unwanted c wanted
    ofExcept (ofPayload tag p)

end Kind

namespace Node

/-- Reads a file name, which may be missing. -/
def readFilename : Reader (Option String) := do
  match ← peekToken with
  | none => stop .endBeforeValue
  | some 'n' =>
    let _ ← literal 'n'
    pure none
  | some '"' =>
    advance
    some <$> string
  | some c => unwanted c "a string"

/-- Reads a line. -/
def readLine : Reader UInt64 := do
  match ← peekToken with
  | none => stop .endBeforeValue
  | some c =>
    if c = '-' ∨ c.isDigit then
      match lineOf (← number) with
      | .ok line => pure line
      | .error cause => stop cause
    else unwanted c "usize"

/-- Reads the children of a node with `child`, if `levels` allow a bracket. -/
def readChildren (levels : Nat) (child : Reader Node) : Reader (List Node) := do
  match ← peekToken with
  | none => stop .endBeforeValue
  | some '[' =>
    match levels with
    | 0 => stopAhead .tooDeep
    | _ + 1 => bracketed closeList (items child true)
  | some c => unwanted c "a sequence"

/-- Reads the member of a node with the name `key`; one that has been met before is a fault. -/
def readMember (levels : Nat) (child : Reader Node) (met : Met) (key : String) : Reader Met := do
  if met.has key then stopUnplaced (.duplicateField key)
  colon
  if key = "kind" then return { met with kind := some (← Kind.read levels) }
  else if key = "children" then return { met with children := some (← readChildren levels child) }
  else if key = "filename" then return { met with filename := some (← readFilename) }
  else if key = "line" then return { met with line := some (← readLine) }
  else
    skipValue
    return met

/-- Reads the members of a node. -/
def readMembers (levels : Nat) (child : Reader Node) : Reader Node := do
  let met ← foldMembers (readMember levels child) .nothing
  ofExcept met.node

/-- Reads an item that may be missing. -/
def readItem? (missing : α) (item : Reader α) : Reader α := do
  if ← nextItem false then item else pure missing

/-- Reads the items of a node. -/
def readItems (levels : Nat) (child : Reader Node) : Reader Node := do
  if ← nextItem true then
    let kind ← Kind.read levels
    let children ← readItem? [] (readChildren levels child)
    let filename ← readItem? none readFilename
    let line ← readItem? 0 readLine
    return ⟨kind, children, filename, line⟩
  else stopUnplaced (.wrongLength 0 wantedItems)

/-- Reads a node with `child` for its children, if `levels` allow a bracket. -/
def readWith (levels : Nat) (child : Reader Node) : Reader Node := do
  match ← peekToken with
  | none => stop .endBeforeValue
  | some c =>
    if c = '[' then
      match levels with
      | 0 => stopAhead .tooDeep
      | inner + 1 => bracketed closeList (readItems inner child)
    else if c = '\x7b' then
      match levels with
      | 0 => stopAhead .tooDeep
      | inner + 1 => bracketed closeObject (readMembers inner child)
    else unwanted c wanted

/-- Reads a node, in which `levels` brackets may be open at once.  A child stands within two more
brackets than its parent, its parent's own and that of the children. -/
def read : Nat → Reader Node
  | levels + 2 => readWith (levels + 2) (read levels)
  | levels => readWith levels (stopAhead .tooDeep)

/-- The tree that a text holds. -/
def ofText (source : String) : Except Json.Refusal Node :=
  runAll (read maxLevels) source

end Node

end SheetCheck
