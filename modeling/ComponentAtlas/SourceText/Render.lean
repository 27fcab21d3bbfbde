import ComponentAtlas.SourceText.Lexeme
import ComponentAtlas.Tree.Validity

/-!
# Rendering source text

The source text that an author would have written to obtain a given prototype: one statement a
line, one level of indentation for each level of nesting. References are written by name and never
followed. Directives stand where they were recorded, and a directive whose value is a plain bag of
properties is written as one statement for each property.
-/

namespace ComponentAtlas.SourceText

/-- A line of source text and the number of blocks around it. -/
structure Line where
  depth : Nat
  text : String
  deriving DecidableEq, Inhabited

/-- The lines of a block around other lines. -/
def block (depth : Nat) (header : String) (body : List Line) : List Line :=
  ⟨depth, header ++ " \x7b"⟩ :: body ++ [⟨depth, "\x7d"⟩]

/-- Whether a directive with these properties is written as one statement for each of them. -/
def isFlat (properties : Keyed Node) : Bool :=
  !properties.isEmpty && !properties.any fun entry => entry.2.kind == .directives

mutual

/-- The lines of a node under a written key. -/
def propertyLines (key : String) (path : PropertyPath) (depth : Nat) :
    Node → Except Fault (List Line)
  | .scalar literal => do
    let value ← formatLiteral path literal
    return [⟨depth, key ++ " = " ++ value⟩]
  | .expression text => .ok [⟨depth, key ++ " = $\x7b" ++ text ++ "\x7d"⟩]
  | .reference prototype overrides =>
    if overrides.isEmpty then .ok [⟨depth, key ++ " = " ++ prototype⟩]
    else block depth (key ++ " = " ++ prototype) <$> bodyLines path (depth + 1) overrides
  | .object properties => block depth key <$> bodyLines path (depth + 1) properties
  | .directives entries => block depth key <$> directiveLines path (depth + 1) entries

/-- The lines of the properties in a block. -/
def bodyLines (path : PropertyPath) (depth : Nat) :
    List (String × Node) → Except Fault (List Line)
  | [] => .ok []
  | (_, .directives entries) :: rest => do
    let first ← directiveLines path depth entries
    let others ← bodyLines path depth rest
    return first ++ others
  | (key, node) :: rest => do
    let first ← propertyLines (formatKey key) (path.child key) depth node
    let others ← bodyLines path depth rest
    return first ++ others

/-- The lines of directives. -/
def directiveLines (path : PropertyPath) (depth : Nat) :
    List (String × Node) → Except Fault (List Line)
  | [] => .ok []
  | (name, .object properties) :: rest => do
    let key := "@" ++ formatKey name
    let position := path.child ("@" ++ name)
    let first ←
      if isFlat properties then flatLines key position depth properties
      else block depth key <$> bodyLines position (depth + 1) properties
    let others ← directiveLines path depth rest
    return first ++ others
  | (name, value) :: rest => do
    let first ← propertyLines ("@" ++ formatKey name) (path.child ("@" ++ name)) depth value
    let others ← directiveLines path depth rest
    return first ++ others

/-- The lines of the properties of a directive that is written as one statement for each. -/
def flatLines (key : String) (path : PropertyPath) (depth : Nat) :
    List (String × Node) → Except Fault (List Line)
  | [] => .ok []
  | (name, node) :: rest => do
    let first ← propertyLines (key ++ "." ++ formatKey name) (path.child name) depth node
    let others ← flatLines key path depth rest
    return first ++ others

end

/-- The lines of a prototype definition. -/
def prototypeLines (name : String) (node : Node) : Except Fault (List Line) :=
  let path := PropertyPath.ofPrototype name
  let header := "prototype(" ++ name ++ ")"
  match node with
  | .reference parent overrides =>
    block 0 (header ++ " < prototype(" ++ parent ++ ")") <$> bodyLines path 1 overrides
  | _ => propertyLines header path 0 node

/-- The lines of the rendering paths. -/
def pathLines (paths : Keyed Node) : Except Fault (List Line) :=
  bodyLines .ofPaths 0 paths

/-- A line with its indentation. -/
def Line.layout (indent : String) (line : Line) : String :=
  String.join (List.replicate line.depth indent) ++ line.text ++ "\n"

/-- Lines with their indentation. -/
def layout (indent : String) (lines : List Line) : String :=
  String.join (lines.map (Line.layout indent))

/-- The source text of a prototype definition. -/
def renderPrototype (indent : String) (name : String) (node : Node) : Except Fault String :=
  layout indent <$> prototypeLines name node

/-- The source text of the rendering paths. -/
def renderPaths (indent : String) (paths : Keyed Node) : Except Fault String :=
  layout indent <$> pathLines paths

end ComponentAtlas.SourceText

namespace ComponentAtlas

/-- The source text of a prototype of a tree. -/
def Tree.renderPrototype (tree : Tree) (indent : String) (name : String) :
    Except Fault String := do
  SourceText.renderPrototype indent name (← tree.prototype name)

end ComponentAtlas
