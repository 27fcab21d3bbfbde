import ComponentAtlas.Document.Scalar

/-!
# Typed views of documents

How a document answers when a text, a number, a list, a table or a record is asked for. The answers
depend on the dialect: a list may stand for a record, an empty YAML scalar for an empty table, and
what was set aside before its type was known counts by its resolved meaning.
-/

namespace ComponentAtlas

/-- Where a document comes from. -/
inductive Dialect
  | json
  | yaml
  | toml
  /-- Content that was set aside before its type was known. -/
  | buffered
  deriving DecidableEq, Inhabited

/-- How a list may stand for a record, its items in the order of the fields. -/
inductive Positional
  | never
  /-- With no more items than fields. -/
  | exact
  /-- With further items ignored. -/
  | leading
  deriving DecidableEq

/-- How a list may stand for a record in each dialect. -/
def Dialect.positional : Dialect → Positional
  | json | buffered => .exact
  | yaml => .never
  | toml => .leading

namespace Document

mutual

/-- Whether a document can be set aside: all of it has a meaning. -/
def canBuffer : Document → Bool
  | .malformed | .tagged _ _ => false
  | .scalar plain tag written =>
    match Scalar.resolve plain tag written with
    | .malformed => false
    | _ => true
  | .list items => canBufferItems items
  | .table entries => canBufferEntries entries
  | _ => true

/-- Whether all items of a list can be set aside. -/
def canBufferItems : List Document → Bool
  | [] => true
  | item :: rest => item.canBuffer && canBufferItems rest

/-- Whether all entries of a table can be set aside. -/
def canBufferEntries : List (Document × Document) → Bool
  | [] => true
  | (key, value) :: rest => key.canBuffer && value.canBuffer && canBufferEntries rest

end

/-- The document with a scalar replaced by its meaning. -/
def resolved : Document → Document
  | .scalar plain tag written => Scalar.resolve plain tag written
  | document => document

/-- The document as the dialect sees it when a typed value is asked for. -/
def seen (dialect : Dialect) (document : Document) : Document :=
  if dialect = .buffered then document.resolved else document

/-- The document as a text. A YAML scalar is the text it is written with. -/
def text? (dialect : Dialect) (document : Document) : Option String :=
  match document.seen dialect with
  | .text value | .scalar _ _ value => some value
  | _ => none

/-- The document as a natural number up to a limit. -/
def natural? (dialect : Dialect) (limit : Nat) (document : Document) : Option Nat :=
  match document.seen dialect with
  | .integer value => if 0 ≤ value ∧ value ≤ limit then some value.toNat else none
  | .scalar true _ written =>
    match Scalar.integer? written with
    | some value =>
      if 0 ≤ value ∧ value ≤ limit ∧ written.toList.head? ≠ some '-' then some value.toNat else none
    | none => none
  | _ => none

/-- Whether a document stands for an absent value; `none` when it contradicts its tag. -/
def isAbsent? (dialect : Dialect) (document : Document) : Option Bool :=
  match document.seen dialect with
  | .null => some true
  | .scalar true none written => some (written = "" || Scalar.isNull written)
  | .scalar true (some tag) written =>
    if tag = Scalar.coreTag "null" then if Scalar.isNull written then some true else none
    else some false
  | _ => some false

/-- The document as an optional value. -/
def optional? {α : Type} (dialect : Dialect) (decode : Document → Option α)
    (document : Document) : Option (Option α) :=
  match document.isAbsent? dialect with
  | some true => some none
  | some false => (decode document).map some
  | none => none

/-- The document as a list. -/
def list? (dialect : Dialect) (document : Document) : Option (List Document) :=
  match document.seen dialect with
  | .list items | .tagged _ (.list items) => some items
  | .scalar true _ "" => some []
  | _ => none

/-- The document as a table. -/
def table? (dialect : Dialect) (document : Document) : Option (List (Document × Document)) :=
  match document.seen dialect with
  | .table entries | .tagged _ (.table entries) => some entries
  | .scalar true _ "" => some []
  | _ => none

/-- A table whose keys are texts and whose values decode; a repeated key keeps its first position
and its last value. -/
def keyed? {α : Type} (dialect : Dialect) (decode : Document → Option α)
    (document : Document) : Option (Keyed α) := do
  let entries ← document.table? dialect
  let decoded ← entries.mapM fun (key, value) => do
    return (← key.text? dialect, ← decode value)
  return Keyed.ofList decoded

/-- The field that a key of a record names, `some none` for an unknown one. Content that was set
aside may name a field by its number. -/
def field? (dialect : Dialect) (names : List String) (key : Document) : Option (Option Nat) :=
  match key.seen dialect with
  | .text name | .scalar _ _ name =>
    let index := names.idxOf name
    some (if index < names.length then some index else none)
  | .integer n =>
    if dialect = .buffered ∧ 0 ≤ n then
      some (if n < names.length then some n.toNat else none)
    else none
  | _ => none

/-- What a record says about one of its fields. -/
inductive Field
  | present (content : Document)
  /-- The table has no such key. -/
  | absent
  /-- The list that stands for the record is too short. -/
  | cut

/-- The named fields of a record. Unknown keys are ignored and repeated ones refused. -/
def recordFields (dialect : Dialect) (names : List String) :
    List Field → List (Document × Document) → Option (List Field)
  | found, [] => some found
  | found, (key, content) :: rest =>
    match key.field? dialect names with
    | none => none
    | some none => recordFields dialect names found rest
    | some (some index) =>
      match found[index]? with
      | some (.present _) => none
      | _ => recordFields dialect names (found.set index (.present content)) rest

/-- The fields of a record that a list stands for. -/
def positionalFields (names : List String) (items : List Document) : List Field :=
  (items.take names.length).map .present ++
    List.replicate (names.length - items.length) .cut

/-- The document as a record with the given fields. -/
def record? (dialect : Dialect) (names : List String) (document : Document) :
    Option (List Field) :=
  match document.seen dialect, dialect.positional with
  | .list _, .never => none
  | .list items, .exact =>
    if items.length ≤ names.length then some (positionalFields names items) else none
  | .list items, .leading => some (positionalFields names items)
  | _, _ =>
    (document.table? dialect).bind
      (recordFields dialect names (List.replicate names.length .absent))

namespace Field

variable {α : Type}

/-- A field that must be there. -/
def required (decode : Document → Option α) : Field → Option α
  | present content => decode content
  | absent | cut => none

/-- A field with a default. -/
def withDefault (default : α) (decode : Document → Option α) : Field → Option α
  | present content => decode content
  | absent | cut => some default

/-- A field that a table may leave out but a list may not. -/
def optional (dialect : Dialect) (decode : Document → Option α) : Field → Option (Option α)
  | present content => content.optional? dialect decode
  | absent => some none
  | cut => none

end Field

/-- Whether a document may follow the name of a variant that has no content. -/
def isUnit (dialect : Dialect) (document : Document) : Bool :=
  match dialect, document.seen dialect with
  | .json, .null => true
  | .toml, .table [] | .toml, .list [] => true
  | .buffered, .null | .buffered, .table [] => true
  | _, _ => false

/-- The document as the name of a variant without content: a text, a table from the name to
nothing, or in YAML a tag without content. -/
def variant? (dialect : Dialect) (document : Document) : Option String :=
  match document.seen dialect with
  | .text name => some name
  | .scalar plain tag written =>
    match Scalar.localTag? tag with
    | some name => if plain && (written = "" || Scalar.isNull written) then some name else none
    | none => some written
  | .table [(key, content)] =>
    if dialect ≠ .yaml && content.isUnit dialect then key.text? dialect else none
  | _ => none

end Document

end ComponentAtlas
