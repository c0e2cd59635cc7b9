/-!
# Kinds of nodes

A stylesheet tree has twenty kinds of nodes.  `Tag` is the kind alone, and `Kind` the kind with
what belongs to it: the selector of a rule, the name of a mixin, the declaration of a property.
-/

namespace SheetCheck

/-- The kind of a node, without what belongs to it. -/
inductive Tag where
  | root
  | rule
  | property
  | directive
  | media
  | mixinDef
  | mixin
  | function
  | returnValue
  | variableDef
  | comment
  | debug
  | warn
  | eachLoop
  | forLoop
  | ifBranch
  | whileLoop
  | importSheet
  | charset
  | extend
deriving DecidableEq, Repr

namespace Tag

/-- All tags, in the order in which messages list them. -/
def all : List Tag :=
  [root, rule, property, directive, media, mixinDef, mixin, function, returnValue, variableDef,
    comment, debug, warn, eachLoop, forLoop, ifBranch, whileLoop, importSheet, charset, extend]

/-- The name of a tag in the JSON form of a tree. -/
def jsonName : Tag → String
  | root => "root"
  | rule => "rule"
  | property => "property"
  | directive => "directive"
  | media => "media"
  | mixinDef => "mixin_def"
  | mixin => "mixin"
  | function => "function"
  | returnValue => "return"
  | variableDef => "variable"
  | comment => "comment"
  | debug => "debug"
  | warn => "warn"
  | eachLoop => "each"
  | forLoop => "for"
  | ifBranch => "if"
  | whileLoop => "while"
  | importSheet => "import"
  | charset => "charset"
  | extend => "extend"

/-- The name of a tag in the log and in the names of rules. -/
def name : Tag → String
  | property => "prop"
  | mixinDef => "mixindef"
  | tag => tag.jsonName

/-- The tag with a name in the JSON form. -/
def ofJsonName? (name : String) : Option Tag :=
  all.find? (·.jsonName == name)

/-- Whether children see through nodes of this kind to what encloses them. -/
def isTransparent : Tag → Bool
  | eachLoop | forLoop | ifBranch | importSheet | mixin | whileLoop => true
  | _ => false

/-- Whether a tag is that of a directive, general or special. -/
def isDirective : Tag → Bool
  | directive | media => true
  | _ => false

/-- A tag is found by its name. -/
@[simp] theorem ofJsonName?_jsonName (tag : Tag) : ofJsonName? tag.jsonName = some tag := by
  cases tag <;> rfl

end Tag

/-- How a declaration is written. -/
inductive Style where
  /-- `name: value` -/
  | new
  /-- `:name value` -/
  | old
deriving DecidableEq, Repr

/-- The value of a property. -/
inductive PropertyValue where
  /-- A plain word, such as the one behind a selector that lacks its escape. -/
  | string (text : String)
  /-- Any other expression, as it is written. -/
  | script (text : String)
deriving DecidableEq, Repr

/-- The text of a value. -/
def PropertyValue.text : PropertyValue → String
  | string t | script t => t

/-- A declared property. -/
structure Property where
  name : String
  value : PropertyValue
  style : Style
deriving DecidableEq, Repr

/-- The kind of a node with what belongs to it. -/
inductive Kind where
  /-- A document; `template` is its source text. -/
  | root (template : String)
  | rule (selector : String)
  | property (p : Property)
  | directive (value : String)
  | media (query : String)
  /-- The definition of a mixin. -/
  | mixinDef (name : String)
  /-- The use of a mixin. -/
  | mixin (name : String)
  | function (name : String)
  | returnValue
  | variableDef (name : String)
  | comment
  | debug
  | warn
  | eachLoop
  | forLoop
  | ifBranch
  | whileLoop
  /-- An imported file, whose nodes are the children. -/
  | importSheet (path : String)
  | charset (name : String)
  | extend (selector : String)
deriving DecidableEq, Repr

namespace Kind

/-- The kind alone. -/
def tag : Kind → Tag
  | root _ => .root
  | rule _ => .rule
  | property _ => .property
  | directive _ => .directive
  | media _ => .media
  | mixinDef _ => .mixinDef
  | mixin _ => .mixin
  | function _ => .function
  | returnValue => .returnValue
  | variableDef _ => .variableDef
  | comment => .comment
  | debug => .debug
  | warn => .warn
  | eachLoop => .eachLoop
  | forLoop => .forLoop
  | ifBranch => .ifBranch
  | whileLoop => .whileLoop
  | importSheet _ => .importSheet
  | charset _ => .charset
  | extend _ => .extend

end Kind

end SheetCheck
