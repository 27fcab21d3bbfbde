import ComponentAtlas.Decimal.Power
import ComponentAtlas.Document.View
import ComponentAtlas.Node
import ComponentAtlas.Value

/-!
# Trees in data files

A node is a record of its type and its value. Writing and reading agree: the value of a node reads
back as the same node.
-/

namespace ComponentAtlas

/-- The value of a literal. -/
def Literal.toValue : Literal → Value
  | .null => .null
  | .bool value => .bool value
  | .integer value => .integer value.toInt
  | .float value => .float value
  | .string value => .text value

/-- A typed value. -/
def typedValue (kind : Kind) (value : Value) : Value :=
  .record [("type", .text kind.name), ("value", value)]

mutual

/-- The value of a node. -/
def Node.toValue : Node → Value
  | .scalar literal => typedValue .scalar literal.toValue
  | .expression text => typedValue .expression (.text text)
  | .reference prototype overrides =>
    typedValue .reference <| .record <| ("prototype", .text prototype) ::
      if overrides.isEmpty then [] else [("overrides", .record (entryValues overrides))]
  | .object properties => typedValue .object (.record (entryValues properties))
  | .directives entries => typedValue .directives (.record (entryValues entries))

/-- The values of named nodes. -/
def entryValues : List (String × Node) → List (String × Value)
  | [] => []
  | (name, node) :: rest => (name, node.toValue) :: entryValues rest

end

/-- The value of a tree. -/
def Tree.toValue (tree : Tree) : Value :=
  .record [("paths", .record (entryValues tree.paths)),
    ("prototypes", .record (entryValues tree.prototypes))]

namespace Document

/-- The document as a literal. A number is an integer when it is one of 64 bits. -/
def literal? (document : Document) : Option Literal :=
  match document.resolved with
  | .null => some .null
  | .bool value => some (.bool value)
  | .integer value =>
    if fitsSigned 64 value then some (.integer (Int64.ofInt value))
    else some (.float (Float.ofInt value))
  | .float value => some (.float value)
  | .text value => some (.string value)
  | _ => none

/-- What has been read of the record of a node. -/
inductive NodeProgress
  | start
  /-- The type is known, the value is not. -/
  | typed (kind : Kind)
  /-- The value was set aside until its type is known. -/
  | untyped (decode : Kind → Option Node)
  | complete (node : Node)

/-- What has been read of the record of an instance. -/
structure InstanceProgress where
  prototype : Option String := none
  /-- The node whose properties are the overrides. -/
  overrides : Option Node := none

/-- An instance whose record is complete. -/
def InstanceProgress.node? (progress : InstanceProgress) : Option Node :=
  progress.prototype.map fun prototype =>
    .reference prototype ((progress.overrides.map Node.children).getD [])

/-- The document as the type of a node. -/
def kind? (dialect : Dialect) (document : Document) : Option Kind :=
  (document.variant? dialect).bind Kind.ofName?

/-- The node of a given kind whose value is no list or table. -/
def leaf? (dialect : Dialect) (kind : Kind) (document : Document) : Option Node :=
  match kind with
  | .scalar => if document.canBuffer then document.literal?.map .scalar else none
  | .expression => (document.text? dialect).map .expression
  | .reference => none
  | .object => (document.table? dialect).bind fun entries =>
    if entries.isEmpty then some (.object []) else none
  | .directives => (document.table? dialect).bind fun entries =>
    if entries.isEmpty then some (.directives []) else none

mutual

/-- The document as a node. -/
def node? (dialect : Dialect) : Document → Option Node
  | .table entries | .tagged _ (.table entries) => nodeRecord dialect .start entries
  | .list [type, value] =>
    if dialect.positional = .never then none
    else (type.kind? dialect).bind fun kind => payload? dialect kind value
  | .list (type :: value :: _ :: _) =>
    if dialect.positional = .leading then
      (type.kind? dialect).bind fun kind => payload? dialect kind value
    else none
  | _ => none

/-- The node that the entries of a record describe. -/
def nodeRecord (dialect : Dialect) (progress : NodeProgress) :
    List (Document × Document) → Option Node
  | [] =>
    match progress with
    | .complete node => some node
    | _ => none
  | (key, content) :: rest =>
    match key.field? dialect ["type", "value"], progress with
    | none, _ => none
    | some none, _ => nodeRecord dialect progress rest
    | some (some 0), .start =>
      match content.kind? dialect with
      | some kind => nodeRecord dialect (.typed kind) rest
      | none => none
    | some (some 0), .untyped decode =>
      match (content.kind? dialect).bind decode with
      | some node => nodeRecord dialect (.complete node) rest
      | none => none
    | some (some 1), .start =>
      if content.canBuffer then
        nodeRecord dialect (.untyped fun kind => payload? .buffered kind content) rest
      else none
    | some (some 1), .typed kind =>
      match payload? dialect kind content with
      | some node => nodeRecord dialect (.complete node) rest
      | none => none
    | some (some _), _ => none

/-- The node of a given kind with the document as its value. -/
def payload? (dialect : Dialect) (kind : Kind) : Document → Option Node
  | .table entries | .tagged _ (.table entries) =>
    match kind with
    | .reference => instanceRecord dialect {} entries
    | .object => (nodeEntries dialect [] entries).map .object
    | .directives => (nodeEntries dialect [] entries).map .directives
    | .scalar | .expression => none
  | .list [name] =>
    if kind = .reference ∧ dialect.positional ≠ .never then
      (name.text? dialect).map fun prototype => .reference prototype []
    else none
  | .list [name, overrides] =>
    if kind = .reference ∧ dialect.positional ≠ .never then do
      let prototype ← name.text? dialect
      let object ← payload? dialect .object overrides
      return .reference prototype object.children
    else none
  | .list (name :: overrides :: _ :: _) =>
    if kind = .reference ∧ dialect.positional = .leading then do
      let prototype ← name.text? dialect
      let object ← payload? dialect .object overrides
      return .reference prototype object.children
    else none
  | document => leaf? dialect kind document

/-- The instance that the entries of a record describe. -/
def instanceRecord (dialect : Dialect) (progress : InstanceProgress) :
    List (Document × Document) → Option Node
  | [] => progress.node?
  | (key, content) :: rest =>
    match key.field? dialect ["prototype", "overrides"] with
    | none => none
    | some none => instanceRecord dialect progress rest
    | some (some 0) =>
      match progress.prototype, content.text? dialect with
      | none, some prototype =>
        instanceRecord dialect { progress with prototype := some prototype } rest
      | _, _ => none
    | some (some _) =>
      match progress.overrides, payload? dialect .object content with
      | none, some object =>
        instanceRecord dialect { progress with overrides := some object } rest
      | _, _ => none

/-- Named nodes, added to those read before. -/
def nodeEntries (dialect : Dialect) (found : Keyed Node) :
    List (Document × Document) → Option (Keyed Node)
  | [] => some found
  | (key, content) :: rest =>
    match key.text? dialect, node? dialect content with
    | some name, some node => nodeEntries dialect (found.insert name node) rest
    | _, _ => none

end

/-- The document as named nodes. -/
def nodes? (dialect : Dialect) (document : Document) : Option (Keyed Node) :=
  (payload? dialect .object document).map Node.children

/-- The document as a tree. -/
def tree? (dialect : Dialect) (document : Document) : Option Tree := do
  match ← document.record? dialect ["paths", "prototypes"] with
  | [paths, prototypes] =>
    return { paths := ← paths.withDefault [] (nodes? dialect)
             prototypes := ← prototypes.withDefault [] (nodes? dialect) }
  | _ => none

end Document

end ComponentAtlas
