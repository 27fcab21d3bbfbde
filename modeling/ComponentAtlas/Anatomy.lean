import ComponentAtlas.Tree.Validity

/-!
# Anatomy

What a prototype is made of. The summary lists every instance in the prototype's own subtree with
its role, the property path that leads to it; bodies of other prototypes are not visited. The
outline keeps the nesting of instances within the overrides of other instances.
-/

namespace ComponentAtlas

/-- An instance of a prototype, and the property path at which it stands. -/
structure Part where
  role : String
  prototype : String
  deriving DecidableEq, Inhabited

/-- What a prototype is made of. -/
structure Anatomy where
  /-- The prototype that this one extends. -/
  parent : Option String := none
  /-- The instances in the subtree, each role and prototype once, where it first occurs. -/
  parts : List Part := []
  deriving DecidableEq, Inhabited

/-- The step that a directive adds to a role. -/
def directiveStep (name : String) : String :=
  "@" ++ name

/-- Role steps as they are written. -/
def roleText (steps : List String) : String :=
  ".".intercalate steps

mutual

/-- The instances at and below a node, in document order. -/
def Node.partsAt (role : List String) : Node → List Part
  | .scalar _ | .expression _ => []
  | .reference prototype overrides => ⟨roleText role, prototype⟩ :: partsAmong role overrides
  | .object properties => partsAmong role properties
  | .directives entries => directiveParts role entries

/-- The instances among properties. Directives add no step of their own to the role. -/
def partsAmong (role : List String) : List (String × Node) → List Part
  | [] => []
  | (_, .directives entries) :: rest => directiveParts role entries ++ partsAmong role rest
  | (key, node) :: rest => node.partsAt (role ++ [key]) ++ partsAmong role rest

/-- The instances among directives. -/
def directiveParts (role : List String) : List (String × Node) → List Part
  | [] => []
  | (name, node) :: rest => node.partsAt (role ++ [directiveStep name]) ++ directiveParts role rest

end

/-- The anatomy of a prototype with the given body. -/
def Node.anatomy : Node → Anatomy
  | .reference prototype overrides =>
    { parent := some prototype, parts := distinct (partsAmong [] overrides) }
  | node => { parts := distinct (node.partsAt []) }

/-- The prototypes that occur as parts, in order of first occurrence. -/
def Anatomy.prototypes (anatomy : Anatomy) : List String :=
  distinct (anatomy.parts.map Part.prototype)

/-- An instance with the instances in its overrides. Roles are relative to the instance around. -/
inductive Outline
  | node (role : String) (prototype : String) (children : List Outline)

namespace Outline

/-- The property path from the instance around, or from the prototype. -/
def role : Outline → String
  | .node role _ _ => role

/-- The prototype of the instance. -/
def prototype : Outline → String
  | .node _ prototype _ => prototype

/-- The instances in the overrides of the instance. -/
def children : Outline → List Outline
  | .node _ _ children => children

end Outline

mutual

/-- The outline of the instances at and below a node. -/
def Node.outlineAt (role : List String) : Node → List Outline
  | .scalar _ | .expression _ => []
  | .reference prototype overrides =>
    [.node (roleText role) prototype (outlineAmong [] overrides)]
  | .object properties => outlineAmong role properties
  | .directives entries => directiveOutline role entries

/-- The outline of the instances among properties. -/
def outlineAmong (role : List String) : List (String × Node) → List Outline
  | [] => []
  | (_, .directives entries) :: rest => directiveOutline role entries ++ outlineAmong role rest
  | (key, node) :: rest => node.outlineAt (role ++ [key]) ++ outlineAmong role rest

/-- The outline of the instances among directives. -/
def directiveOutline (role : List String) : List (String × Node) → List Outline
  | [] => []
  | (name, node) :: rest =>
    node.outlineAt (role ++ [directiveStep name]) ++ directiveOutline role rest

end

/-- The outline of a prototype with the given body. -/
def Node.outline : Node → List Outline
  | .reference _ overrides => outlineAmong [] overrides
  | node => node.outlineAt []

end ComponentAtlas
