import ComponentAtlas.Fault

/-!
# Validity of trees

A tree is well named when no prototype has an empty name, no property name is empty or contains the
path separator, and directives stand exactly under the reserved key. `Tree.validate` reports the
first position at fault in document order: the paths before the prototypes, a position before what
is below it.
-/

namespace ComponentAtlas

/-- Whether a node may stand under a key. -/
def fitsKey (key : String) (node : Node) : Bool :=
  key ≠ "" && !key.toList.contains pathSeparator &&
    ((key == metaKey) == (node.kind == .directives))

mutual

/-- The first position at fault below a node. -/
def Node.firstFault? (path : PropertyPath) : Node → Option PropertyPath
  | .scalar _ | .expression _ => none
  | .reference _ entries | .object entries | .directives entries => firstFaultAmong? path entries

/-- The first position at fault among named nodes and below them. -/
def firstFaultAmong? (parent : PropertyPath) : List (String × Node) → Option PropertyPath
  | [] => none
  | (key, node) :: rest =>
    let path := parent.child key
    if fitsKey key node then
      match node.firstFault? path with
      | some found => some found
      | none => firstFaultAmong? parent rest
    else some path

end

namespace Tree

/-- The first position at fault among prototypes and below them. -/
def firstPrototypeFault? : List (String × Node) → Option PropertyPath
  | [] => none
  | (name, node) :: rest =>
    let path := PropertyPath.ofPrototype name
    if name = "" then some path
    else match node.firstFault? path with
      | some found => some found
      | none => firstPrototypeFault? rest

/-- Accepts a well-named tree and reports the first position at fault of any other. -/
def validate (tree : Tree) : Except Fault Unit :=
  match firstFaultAmong? .ofPaths tree.paths <|> firstPrototypeFault? tree.prototypes with
  | some path => .error (.invalidName path)
  | none => .ok ()

/-- The prototype of a given name. -/
def prototype (tree : Tree) (name : String) : Except Fault Node :=
  match tree.prototypes.find? name with
  | some node => .ok node
  | none => .error (.unknownPrototype name)

end Tree

end ComponentAtlas
