import ComponentAtlas.Fault

/-!
# Merging trees

The fragments of a package are merged from left to right, later ones over earlier ones. Properties
merge recursively: names already present keep their position and new ones are appended. A leaf
replaces whatever was there. An object laid over a reference extends the overrides of the instance.
-/

namespace ComponentAtlas

/-- How a change of shape at the same position is treated. -/
inductive MergePolicy
  /-- The later node replaces the earlier one. -/
  | override
  /-- Replacing structure by leaves, or leaves by structure, is refused. -/
  | strict
  deriving DecidableEq, Inhabited

/-- The name of a policy in data files. -/
def MergePolicy.name : MergePolicy → String
  | override => "override"
  | strict => "strict"

/-- The policy of a given name. -/
def MergePolicy.ofName? (name : String) : Option MergePolicy :=
  [override, strict].find? fun policy => policy.name = name

/-- The broad shape of a node, which is all that the strict policy looks at. -/
inductive Shape
  | leaf
  | directives
  | structural
  deriving DecidableEq, Inhabited

/-- The shape of a kind of node. Objects and instances of prototypes have the same shape. -/
def Kind.shape : Kind → Shape
  | scalar | expression => .leaf
  | directives => .directives
  | object | reference => .structural

namespace MergePolicy

/-- Whether a node of one kind may be laid over a node of another. -/
def allows (policy : MergePolicy) (existing incoming : Kind) : Bool :=
  match policy with
  | override => true
  | strict => existing.shape == incoming.shape

mutual

/-- Lays the second node over the first. -/
def mergeNode (policy : MergePolicy) (path : PropertyPath) (existing : Node) :
    Node → Except Fault Node
  | .scalar value =>
    if policy.allows existing.kind .scalar then .ok (.scalar value)
    else .error (.mergeConflict path existing.kind .scalar)
  | .expression text =>
    if policy.allows existing.kind .expression then .ok (.expression text)
    else .error (.mergeConflict path existing.kind .expression)
  | .reference prototype overrides =>
    if policy.allows existing.kind .reference then .ok (.reference prototype overrides)
    else .error (.mergeConflict path existing.kind .reference)
  | .object properties =>
    if policy.allows existing.kind .object then
      match existing with
      | .object base => .object <$> mergeEntries policy path base properties
      | .reference prototype base =>
        .reference prototype <$> mergeEntries policy path base properties
      | _ => .ok (.object properties)
    else .error (.mergeConflict path existing.kind .object)
  | .directives entries =>
    if policy.allows existing.kind .directives then
      match existing with
      | .directives base => .directives <$> mergeEntries policy path base entries
      | _ => .ok (.directives entries)
    else .error (.mergeConflict path existing.kind .directives)

/-- Lays named nodes over others. -/
def mergeEntries (policy : MergePolicy) (parent : PropertyPath) (base : Keyed Node) :
    List (String × Node) → Except Fault (Keyed Node)
  | [] => .ok base
  | (key, node) :: rest =>
    match base.find? key with
    | some existing =>
      match mergeNode policy (parent.child key) existing node with
      | .ok merged => mergeEntries policy parent (base.insert key merged) rest
      | .error fault => .error fault
    | none => mergeEntries policy parent (base.insert key node) rest

end

/-- Lays prototypes over others. -/
def mergePrototypes (policy : MergePolicy) (base : Keyed Node) :
    List (String × Node) → Except Fault (Keyed Node)
  | [] => .ok base
  | (name, node) :: rest =>
    match base.find? name with
    | some existing =>
      match policy.mergeNode (.ofPrototype name) existing node with
      | .ok merged => mergePrototypes policy (base.insert name merged) rest
      | .error fault => .error fault
    | none => mergePrototypes policy (base.insert name node) rest

/-- Lays one tree over another. -/
def mergeOnto (policy : MergePolicy) (base next : Tree) : Except Fault Tree := do
  let paths ← policy.mergeEntries .ofPaths base.paths next.paths
  let prototypes ← policy.mergePrototypes base.prototypes next.prototypes
  return { paths, prototypes }

/-- Merges trees from left to right. -/
def merge (policy : MergePolicy) (sources : List Tree) : Except Fault Tree :=
  sources.foldlM policy.mergeOnto .empty

end MergePolicy

end ComponentAtlas
