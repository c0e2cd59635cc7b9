import SheetCheck.Node.Declaration

/-!
# Nesting rules

A rule restricts which node may stand in which container.  Some kinds of containers restrict
what they hold, and some kinds of nodes restrict where they stand; a container is asked before
the node.  Whether a rule is broken depends on the two tags only, and so does the message, but
for the hint that a misplaced property may add.
-/

namespace SheetCheck

/-- A restriction of nesting. -/
inductive Rule where
  | charsetParent
  | extendParent
  | functionParent
  | functionChild
  | importParent
  | mixinDefParent
  | propertyChild
  | propertyParent
  | returnParent
deriving DecidableEq, Repr

namespace Rule

/-- The name of a rule. -/
def name : Rule → String
  | charsetParent => "charset_parent"
  | extendParent => "extend_parent"
  | functionParent => "function_parent"
  | functionChild => "function_child"
  | importParent => "import_parent"
  | mixinDefParent => "mixindef_parent"
  | propertyChild => "prop_child"
  | propertyParent => "prop_parent"
  | returnParent => "return_parent"

/-- The sentence for a broken rule. -/
def sentence : Rule → String
  | charsetParent => "@charset may only be used at the root of a document."
  | extendParent => "Extend directives may only be used within rules."
  | functionParent => "Functions may only be defined at the root of a document."
  | functionChild => "Functions can only contain variable declarations and control directives."
  | importParent => "Import directives may only be used at the root of a document."
  | mixinDefParent => "Mixins may only be defined at the root of a document."
  | propertyChild => "Illegal nesting: Only properties may be nested beneath properties."
  | propertyParent =>
    "Properties are only allowed within rules, directives, or other properties."
  | returnParent => "@return may only be used within a function."

/-- The rule that a container of some kind imposes on what it holds. -/
def ofContainer? : Tag → Option Rule
  | .function => some functionChild
  | .property => some propertyChild
  | _ => none

/-- The rule that a node of some kind imposes on its container. -/
def ofMember? : Tag → Option Rule
  | .charset => some charsetParent
  | .extend => some extendParent
  | .function => some functionParent
  | .importSheet => some importParent
  | .mixinDef => some mixinDefParent
  | .property => some propertyParent
  | .returnValue => some returnParent
  | _ => none

/-- Whether a rule lets a node of kind `member` stand in a container of kind `container`. -/
def allows (r : Rule) (container member : Tag) : Bool :=
  match r with
  | charsetParent | functionParent | importParent | mixinDefParent => container = .root
  | extendParent => container ∈ [.rule, .mixinDef]
  | functionChild =>
    member ∈ [.comment, .debug, .eachLoop, .forLoop, .ifBranch, .returnValue, .variableDef,
      .warn, .whileLoop]
  | propertyChild => member ∈ [.comment, .property]
  | propertyParent => container.isDirective ∨ container ∈ [.rule, .property, .mixinDef]
  | returnParent => container = .function

/-- What a node that breaks the rule adds to the sentence. -/
def remark (r : Rule) (member : Node) : String :=
  match r with
  | propertyParent => member.selectorHint?.getD ""
  | _ => ""

/-- The message when `member` breaks the rule. -/
def message (r : Rule) (member : Node) : String :=
  r.sentence ++ r.remark member

/-- The message when `member` must not stand in `container`, by this rule. -/
def check (r : Rule) (container member : Node) : Option String :=
  if r.allows container.tag member.tag then none else some (r.message member)

/-- The rule that a node of kind `member` breaks in a container of kind `container`. -/
def broken? (container member : Tag) : Option Rule :=
  let fires (r : Rule) : Option Rule := if r.allows container member then none else some r
  match (ofContainer? container).bind fires with
  | some r => some r
  | none => (ofMember? member).bind fires

end Rule

end SheetCheck
