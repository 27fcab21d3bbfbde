import ComponentAtlas.Keyed
import ComponentAtlas.Literal

/-!
# Component trees

A component tree holds the rendering paths and the prototype definitions of a package. Each
position in it is a node of one of five kinds. The order of children is significant: it is the
order in which the source text writes them.
-/

namespace ComponentAtlas

/-- The key under which a node keeps its directives. -/
def metaKey : String := "__meta"

/-- The character between the segments of a property path, which no key may contain. -/
def pathSeparator : Char := '.'

/-- A node of a component tree. -/
inductive Node
  /-- A literal value. -/
  | scalar (value : Literal)
  /-- An inline expression, without its delimiters. -/
  | expression (text : String)
  /-- An instance of another prototype, with the properties it overrides. -/
  | reference (prototype : String) (overrides : List (String × Node))
  /-- A bag of nested properties. -/
  | object (properties : List (String × Node))
  /-- Directives such as `@if` or `@process`. -/
  | directives (entries : List (String × Node))

/-- The kind of a node. -/
inductive Kind
  | scalar
  | expression
  | reference
  | object
  | directives
  deriving DecidableEq, Inhabited

/-- The name of a kind in data files and messages. -/
def Kind.name : Kind → String
  | scalar => "scalar"
  | expression => "expression"
  | reference => "reference"
  | object => "object"
  | directives => "meta"

/-- The kind of a given name. -/
def Kind.ofName? (name : String) : Option Kind :=
  [scalar, expression, reference, object, directives].find? fun kind => kind.name = name

namespace Node

instance : Inhabited Node := ⟨.scalar .null⟩

/-- The kind of a node. -/
def kind : Node → Kind
  | scalar _ => .scalar
  | expression _ => .expression
  | reference _ _ => .reference
  | object _ => .object
  | directives _ => .directives

/-- Nested entries: properties, directives or overrides. Leaves have none. -/
def children? : Node → Option (Keyed Node)
  | object entries | directives entries | reference _ entries => some entries
  | scalar _ | expression _ => none

/-- Nested entries, none for a leaf. -/
def children (node : Node) : Keyed Node :=
  node.children?.getD []

/-- The child of a given name. -/
def get? (node : Node) (name : String) : Option Node :=
  node.children.find? name

/-- The entries of a node that holds directives. -/
def asDirectives? : Node → Option (Keyed Node)
  | directives entries => some entries
  | _ => none

/-- The directives recorded on a node: those of its first child that holds directives. -/
def metaDirectives? (node : Node) : Option (Keyed Node) :=
  node.children.findSome? fun entry => entry.2.asDirectives?

end Node

/-- The definitions of one package. -/
structure Tree where
  /-- The rendering paths. -/
  paths : Keyed Node := []
  /-- The prototype definitions by name. -/
  prototypes : Keyed Node := []
  deriving Inhabited

namespace Tree

/-- The tree without any definition. -/
def empty : Tree := {}

/-- Whether the tree defines nothing. -/
def isEmpty (tree : Tree) : Bool :=
  tree.paths.isEmpty && tree.prototypes.isEmpty

/-- Adds or replaces a rendering path. -/
def withPath (tree : Tree) (name : String) (node : Node) : Tree :=
  { tree with paths := tree.paths.insert name node }

/-- Adds or replaces a prototype. -/
def withPrototype (tree : Tree) (name : String) (node : Node) : Tree :=
  { tree with prototypes := tree.prototypes.insert name node }

/-- The names of the prototypes, in order. -/
def prototypeNames (tree : Tree) : List String :=
  tree.prototypes.keys

end Tree

end ComponentAtlas
