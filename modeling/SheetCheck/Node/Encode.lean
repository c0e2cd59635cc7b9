import SheetCheck.Json.Printer
import SheetCheck.Node.Basic

/-!
# Trees as JSON

A node is an object with the members `kind`, `children`, `filename` and `line`, all of them
always written.  Its kind is an object whose member `type` names the tag, followed by what
belongs to the kind.
-/

namespace SheetCheck

/-- The name of a style. -/
def Style.jsonName : Style → String
  | .new => "new"
  | .old => "old"

/-- The name of the type of a value. -/
def PropertyValue.jsonName : PropertyValue → String
  | .string _ => "string"
  | .script _ => "script"

/-- A value as JSON. -/
def PropertyValue.toJson (v : PropertyValue) : Json.Value :=
  .object [("type", .string v.jsonName), ("text", .string v.text)]

namespace Kind

/-- The members that follow `type`. -/
def payload : Kind → List (String × Json.Value)
  | root template => [("template", .string template)]
  | rule selector => [("selector", .string selector)]
  | property p =>
    [("name", .string p.name), ("value", p.value.toJson), ("syntax", .string p.style.jsonName)]
  | directive value => [("value", .string value)]
  | media query => [("query", .string query)]
  | mixinDef name => [("name", .string name)]
  | mixin name => [("name", .string name)]
  | function name => [("name", .string name)]
  | variableDef name => [("name", .string name)]
  | importSheet path => [("path", .string path)]
  | charset name => [("name", .string name)]
  | extend selector => [("selector", .string selector)]
  | _ => []

/-- A kind as JSON. -/
def toJson (kind : Kind) : Json.Value :=
  .object (("type", .string kind.tag.jsonName) :: kind.payload)

end Kind

namespace Node

mutual

/-- A tree as JSON. -/
def toJson : Node → Json.Value
  | ⟨kind, children, filename, line⟩ =>
    .object [("kind", kind.toJson), ("children", .array (toJsonAll children)),
      ("filename", .ofString? filename), ("line", .ofNat line.toNat)]

/-- Trees as JSON. -/
def toJsonAll : List Node → List Json.Value
  | [] => []
  | n :: ns => toJson n :: toJsonAll ns

end

end Node

end SheetCheck
