import SheetCheck.Node.Met

/-!
# Trees from JSON values

A node is an object with the members `kind`, `children`, `filename` and `line`, or an array of
them in this order; all but the kind may be left out.  The first fault in the order of the
value is told.
-/

namespace SheetCheck

open Json (Cause Value)

namespace Kind

/-- The tag that a value names. -/
def tagOfValue : Value → Except Cause Tag
  | .string name => tagNamed name
  | v => .error (.wrongType (.ofValue v) "variant identifier")

/-- Takes the tag from among the members of an object, and keeps the others. -/
def splitMembers (tag : Option Tag) (others : List (String × Value)) :
    List (String × Value) → Except Cause (Tag × Payload)
  | [] =>
    match tag with
    | some tag => .ok (tag, .members others.reverse)
    | none => .error (.missingField "type")
  | (key, v) :: ms =>
    if key = "type" then
      match tag with
      | some _ => .error (.duplicateField key)
      | none => do splitMembers (some (← tagOfValue v)) others ms
    else splitMembers tag ((key, v) :: others) ms

/-- A kind from a value. -/
def ofValue : Value → Except Cause Kind
  | .object ms => do
    let (tag, p) ← splitMembers none [] ms
    ofPayload tag p
  | .array [] => .error (.missingField "type")
  | .array (v :: vs) => do
    let tag ← tagOfValue v
    ofPayload tag (.items vs)
  | v => .error (.wrongType (.ofValue v) wanted)

end Kind

namespace Node

/-- A file name, which may be missing, from a value. -/
def filenameOfValue : Value → Except Cause (Option String)
  | .null => .ok none
  | .string s => .ok (some s)
  | v => .error (.wrongType (.ofValue v) "a string")

/-- A line from a value. -/
def lineOfValue : Value → Except Cause UInt64
  | .number n => lineOf n
  | v => .error (.wrongType (.ofValue v) "usize")

mutual

/-- A tree from a value. -/
def ofValue : Value → Except Cause Node
  | .object ms => ofMembers .nothing ms
  | .array [] => .error (.wrongLength 0 wantedItems)
  | .array [kind] => do
    let kind ← Kind.ofValue kind
    .ok ⟨kind, [], none, 0⟩
  | .array (kind :: children :: rest) => do
    let kind ← Kind.ofValue kind
    let children ← childrenOfValue children
    let filename ← match rest with
      | [] => .ok none
      | filename :: _ => filenameOfValue filename
    let line ← match rest with
      | _ :: line :: _ => lineOfValue line
      | _ => .ok 0
    if rest.length ≤ 2 then .ok ⟨kind, children, filename, line⟩
    else .error (.wrongLength (rest.length + 2) "fewer elements in array")
  | v => .error (.wrongType (.ofValue v) wanted)

/-- A tree from the members of an object and those met before. -/
def ofMembers (met : Met) : List (String × Value) → Except Cause Node
  | [] => met.node
  | (key, v) :: ms =>
    if met.has key then .error (.duplicateField key)
    else if key = "kind" then do
      ofMembers { met with kind := some (← Kind.ofValue v) } ms
    else if key = "children" then do
      ofMembers { met with children := some (← childrenOfValue v) } ms
    else if key = "filename" then do
      ofMembers { met with filename := some (← filenameOfValue v) } ms
    else if key = "line" then do
      ofMembers { met with line := some (← lineOfValue v) } ms
    else ofMembers met ms

/-- The children of a node from a value. -/
def childrenOfValue : Value → Except Cause (List Node)
  | .array vs => ofValues vs
  | v => .error (.wrongType (.ofValue v) "a sequence")

/-- Trees from values. -/
def ofValues : List Value → Except Cause (List Node)
  | [] => .ok []
  | v :: vs => do
    let n ← ofValue v
    let ns ← ofValues vs
    .ok (n :: ns)

end

end Node

end SheetCheck
