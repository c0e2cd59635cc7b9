import SheetCheck.Json.Fault
import SheetCheck.Node.Encode

/-!
# What belongs to a kind, from JSON

The JSON form of a kind is read in two steps.  First its tag is found and all else is kept, as
named members or as items in the order of the members.  `Kind.ofPayload` then takes from that
what the tag asks for.  Members with other names are passed over.
-/

namespace SheetCheck

open Json (Cause Found Value)

/-- What stands beside the tag of a kind. -/
inductive Payload where
  | members (ms : List (String × Value))
  | items (vs : List Value)

namespace Payload

/-- The words for a number of items. -/
def itemCount (n : Nat) : String :=
  if n = 1 then "1 element in sequence" else s!"{n} elements in sequence"

/-- A value that has to be a string. -/
def text : Value → Except Cause String
  | .string s => .ok s
  | v => .error (.wrongType (.ofValue v) "a string")

/-- Refuses items that nothing has asked for, behind the `wanted` ones. -/
def noMore (wanted : Nat) (all : List Value) : Except Cause Unit :=
  if all.length ≤ wanted then .ok () else .error (.wrongLength all.length (itemCount wanted))

/-- The only text among the members, under the name `field`. -/
def textMember (field : String) : Option String → List (String × Value) →
    Except Cause (Option String)
  | found, [] => .ok found
  | found, (key, v) :: ms =>
    if key = field then
      match found with
      | some _ => .error (.duplicateField field)
      | none => do textMember field (some (← text v)) ms
    else textMember field found ms

/-- The one text that belongs to a kind, called `field`; `owner` names the kind when it is
missing. -/
def oneText (owner field : String) : Payload → Except Cause String
  | members ms => do
    match ← textMember field none ms with
    | some t => .ok t
    | none => .error (.missingField field)
  | items [] => .error (.wrongLength 0 s!"struct variant NodeKind::{owner} with 1 element")
  | items vs@(v :: _) => do
    let t ← text v
    noMore 1 vs
    .ok t

/-- The one text of a kind that may do without. -/
def oneText? (field : String) : Payload → Except Cause String
  | members ms => do return (← textMember field none ms).getD ""
  | items [] => .ok ""
  | items vs@(v :: _) => do
    let t ← text v
    noMore 1 vs
    .ok t

/-- Nothing, for a kind to which nothing belongs. -/
def nothing : Payload → Except Cause Unit
  | members _ => .ok ()
  | items vs => noMore 0 vs

/-- The choice with a name. -/
def choose (choices : List (String × α)) (name : String) : Except Cause α :=
  match choices.lookup name with
  | some a => .ok a
  | none => .error (.unknownVariant name (choices.map (·.1)))

/-- One of several names, alone or as the only member of an object, with nothing as its value. -/
def variant (choices : List (String × α)) (v : Value) : Except Cause α := do
  match v with
  | .string s => choose choices s
  | .object [(key, content)] =>
    let a ← choose choices key
    match content with
    | .null | .object [] => .ok a
    | _ => .error (.wrongType (.ofValue content) "unit")
  | .object _ => .error (.wrongValue .map "map with a single key")
  | _ => .error (.wrongType (.ofValue v) "string or map")

/-- One of several names, or its place among them, which is counted from zero. -/
def nameOrPlace (choices : List (String × α)) (v : Value) : Except Cause α :=
  match v with
  | .string s => choose choices s
  | .number (.integer n) =>
    if n < 0 then .error (.wrongType (.ofValue v) "variant identifier")
    else
      match choices[n.toNat]? with
      | some (_, a) => .ok a
      | none =>
        .error (.wrongValue (.ofValue v) s!"variant index 0 <= i < {choices.length}")
  | _ => .error (.wrongType (.ofValue v) "variant identifier")

end Payload

/-- A style from JSON. -/
def Style.ofJson : Value → Except Cause Style :=
  Payload.variant [("new", .new), ("old", .old)]

namespace PropertyValue

/-- The types of a value, each as the function that makes such a value of a text. -/
def makers : List (String × (String → PropertyValue)) := [("string", .string), ("script", .script)]

/-- The type of a value under its name in an object. -/
def maker : Value → Except Cause (String → PropertyValue) :=
  Payload.variant makers

/-- The type of a value at the head of an array, where it may be told by its place among the
types. -/
def leadingMaker : Value → Except Cause (String → PropertyValue) :=
  Payload.nameOrPlace makers

/-- Refuses a second member `type` or `text`. -/
def onlyOnce : List (String × Value) → Except Cause Unit
  | [] => .ok ()
  | (key, _) :: ms =>
    if key = "type" ∨ key = "text" then .error (.duplicateField key) else onlyOnce ms

/-- The text of a value whose type is known. -/
def textBehindType (make : String → PropertyValue) : List (String × Value) →
    Except Cause PropertyValue
  | [] => .error (.missingField "text")
  | (key, v) :: ms =>
    if key = "type" then .error (.duplicateField key)
    else if key = "text" then do
      let t ← Payload.text v
      onlyOnce ms
      .ok (make t)
    else textBehindType make ms

/-- The type of a value whose text has been met. -/
def typeBehindText (text : Value) : List (String × Value) → Except Cause PropertyValue
  | [] => .error (.missingField "type")
  | (key, v) :: ms =>
    if key = "text" then .error (.duplicateField key)
    else if key = "type" then do
      let make ← maker v
      let t ← Payload.text text
      onlyOnce ms
      .ok (make t)
    else typeBehindText text ms

/-- A value from the members of an object, in which type and text come in either order. -/
def ofMembers : List (String × Value) → Except Cause PropertyValue
  | [] => .error (.missingField "type")
  | (key, v) :: ms =>
    if key = "type" then do textBehindType (← maker v) ms
    else if key = "text" then typeBehindText v ms
    else ofMembers ms

/-- The words for a value. -/
def wanted : String := "adjacently tagged enum PropValue"

/-- A value from JSON. -/
def ofJson : Value → Except Cause PropertyValue
  | .object ms => ofMembers ms
  | .array [] => .error (.wrongLength 0 wanted)
  | .array [type] => do
    let _ ← leadingMaker type
    .error (.wrongLength 1 wanted)
  | .array vs@(type :: text :: _) => do
    let make ← leadingMaker type
    let t ← Payload.text text
    Payload.noMore 2 vs
    .ok (make t)
  | v => .error (.wrongType (.ofValue v) wanted)

end PropertyValue

namespace Property

/-- The members of a property that have been met. -/
structure Met where
  name : Option String
  value : Option PropertyValue
  style : Option Style

/-- Adds the members of an object to those met before. -/
def ofMembers (met : Met) : List (String × Value) → Except Cause Property
  | [] =>
    match met.name, met.value with
    | none, _ => .error (.missingField "name")
    | some _, none => .error (.missingField "value")
    | some name, some value => .ok ⟨name, value, met.style.getD .new⟩
  | (key, v) :: ms =>
    if key = "name" then
      if met.name.isSome then .error (.duplicateField key)
      else do ofMembers { met with name := some (← Payload.text v) } ms
    else if key = "value" then
      if met.value.isSome then .error (.duplicateField key)
      else do ofMembers { met with value := some (← PropertyValue.ofJson v) } ms
    else if key = "syntax" then
      if met.style.isSome then .error (.duplicateField key)
      else do ofMembers { met with style := some (← Style.ofJson v) } ms
    else ofMembers met ms

/-- The words for the items of a property. -/
def wanted : String := "struct Property with 3 elements"

/-- A property from what belongs to it. -/
def ofPayload : Payload → Except Cause Property
  | .members ms => ofMembers ⟨none, none, none⟩ ms
  | .items [] => .error (.wrongLength 0 wanted)
  | .items [name] => do
    let _ ← Payload.text name
    .error (.wrongLength 1 wanted)
  | .items vs@(name :: value :: rest) => do
    let name ← Payload.text name
    let value ← PropertyValue.ofJson value
    let style ← match rest with
      | [] => .ok Style.new
      | style :: _ => Style.ofJson style
    Payload.noMore 3 vs
    .ok ⟨name, value, style⟩

end Property

namespace Kind

/-- The kind with a tag, from what belongs to it. -/
def ofPayload (tag : Tag) (p : Payload) : Except Cause Kind :=
  match tag with
  | .root => root <$> p.oneText? "template"
  | .rule => rule <$> p.oneText "Rule" "selector"
  | .property => property <$> Property.ofPayload p
  | .directive => directive <$> p.oneText "Directive" "value"
  | .media => media <$> p.oneText "Media" "query"
  | .mixinDef => mixinDef <$> p.oneText "MixinDef" "name"
  | .mixin => mixin <$> p.oneText "Mixin" "name"
  | .function => function <$> p.oneText "Function" "name"
  | .returnValue => (fun _ => returnValue) <$> p.nothing
  | .variableDef => variableDef <$> p.oneText "Variable" "name"
  | .comment => (fun _ => comment) <$> p.nothing
  | .debug => (fun _ => debug) <$> p.nothing
  | .warn => (fun _ => warn) <$> p.nothing
  | .eachLoop => (fun _ => eachLoop) <$> p.nothing
  | .forLoop => (fun _ => forLoop) <$> p.nothing
  | .ifBranch => (fun _ => ifBranch) <$> p.nothing
  | .whileLoop => (fun _ => whileLoop) <$> p.nothing
  | .importSheet => importSheet <$> p.oneText "Import" "path"
  | .charset => charset <$> p.oneText "Charset" "name"
  | .extend => extend <$> p.oneText "Extend" "selector"

/-- The words for a kind. -/
def wanted : String := "internally tagged enum NodeKind"

/-- The tag with a name. -/
def tagNamed (name : String) : Except Cause Tag :=
  match Tag.ofJsonName? name with
  | some tag => .ok tag
  | none => .error (.unknownVariant name (Tag.all.map Tag.jsonName))

end Kind

end SheetCheck
