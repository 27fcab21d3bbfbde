import ComponentAtlas.Document

/-!
# Tables of TOML

A table is put together from headers and from keys of several segments. How it came to be decides
whether it may still be extended: no table is defined twice.
-/

namespace ComponentAtlas.Toml

/-- How a table came to be. -/
inductive TableForm
  /-- By its own header or between braces. -/
  | defined
  /-- By the header of a table within it. -/
  | implied
  /-- By a key of several segments. -/
  | dotted
  deriving DecidableEq, Inhabited

/-- What stands under a key. -/
inductive Item
  | value (content : Document)
  | table (form : TableForm) (entries : List (String × Item))
  /-- The elements of an array of tables. -/
  | tables (elements : List (List (String × Item)))
  deriving Inhabited

/-- The entries of a table. -/
abbrev Entries := Keyed Item

/-- Changes a table that is a given number of segments further in; missing tables are made in the given
form. In an array of tables the last element is meant. A key of several segments must not lead into
a table that has been defined otherwise. -/
def descend? (made : TableForm) (change : TableForm → Entries → Option Entries) :
    List String → TableForm → Entries → Option Entries
  | [], form, entries => change form entries
  | key :: path, _, entries =>
    match entries.find? key with
    | none =>
      (descend? made change path made []).map fun inner => entries.insert key (.table made inner)
    | some (.value _) => none
    | some (.table form inner) =>
      if made = .dotted ∧ form = .defined then none
      else
        (descend? made change path form inner).map fun inner =>
          entries.insert key (.table form inner)
    | some (.tables elements) =>
      match elements.reverse with
      | [] => none
      | last :: others =>
        (descend? made change path .defined last).map fun last =>
          entries.insert key (.tables (last :: others).reverse)

/-- Defines a table by its header. One that was implied so far moves behind its siblings. -/
def defineTable? (key : String) (_ : TableForm) (entries : Entries) : Option Entries :=
  match entries.find? key with
  | none => some (entries ++ [(key, .table .defined [])])
  | some (.table .implied inner) =>
    some ((entries.filter fun entry => entry.1 ≠ key) ++ [(key, .table .defined inner)])
  | some _ => none

/-- Adds an element to an array of tables. -/
def addElement? (key : String) (_ : TableForm) (entries : Entries) : Option Entries :=
  match entries.find? key with
  | none => some (entries ++ [(key, .tables [[]])])
  | some (.tables elements) => some (entries.insert key (.tables (elements ++ [[]])))
  | some _ => none

/-- Writes a value under the last segment of a key; `nested` says whether there are further segments,
in which case the table must have been made by such a key. -/
def addValue? (nested : Bool) (key : String) (content : Document) (form : TableForm)
    (entries : Entries) : Option Entries :=
  if nested ≠ (form = .dotted : Bool) ∨ entries.has key then none
  else some (entries ++ [(key, .value content)])

/-- Writes a value under a key of one or more segments. -/
def assign? (path : List String) (content : Document) (form : TableForm) (entries : Entries) :
    Option Entries :=
  match path.reverse with
  | [] => none
  | key :: parents =>
    descend? .dotted (addValue? (!parents.isEmpty) key content) parents.reverse form entries

mutual

/-- The document of an item. -/
def Item.document : Item → Document
  | .value content => content
  | .table _ entries => .table (entryDocuments entries)
  | .tables elements => .list (elementDocuments elements)

/-- The documents of named items. -/
def entryDocuments : List (String × Item) → List (Document × Document)
  | [] => []
  | (key, item) :: rest => (.text key, item.document) :: entryDocuments rest

/-- The documents of the tables in an array. -/
def elementDocuments : List (List (String × Item)) → List Document
  | [] => []
  | element :: rest => .table (entryDocuments element) :: elementDocuments rest

end

end ComponentAtlas.Toml
