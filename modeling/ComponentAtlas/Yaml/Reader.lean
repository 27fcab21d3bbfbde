import ComponentAtlas.Document.Scalar
import ComponentAtlas.Yaml.Node

/-!
# Reading YAML

A text with a single document becomes that document, with each alias replaced by what its anchor names.
Nesting beyond a limit and aliases that multiply beyond another have no value.
-/

namespace ComponentAtlas.Yaml

/-- Nested lists and tables beyond this many levels have no value. -/
def depthLimit : Nat := 128

/-- How many aliases may be followed for each event of a text. -/
def aliasesPerEvent : Nat := 100

mutual

/-- The number of events of a node: one for a scalar or an alias, two around a collection. -/
def Node.events : Node → Nat
  | .alias _ | .scalar .. => 1
  | .sequence _ items => 2 + itemEvents items
  | .mapping _ entries => 2 + entryEvents entries

/-- The number of events of the nodes in a sequence. -/
def itemEvents : List Node → Nat
  | [] => 0
  | item :: rest => item.events + itemEvents rest

/-- The number of events of the nodes in a mapping. -/
def entryEvents : List (Node × Node) → Nat
  | [] => 0
  | (key, value) :: rest => key.events + value.events + entryEvents rest

end

/-- What the numbers of anchors stand for: the last node of a number wins. -/
abbrev Anchored := List (Nat × Node)

mutual

/-- The nodes with anchors at and below a node, each before what is written earlier. -/
def Node.anchored (node : Node) (found : Anchored) : Anchored :=
  match node with
  | .alias _ => found
  | .scalar properties plain text =>
    match properties.anchor with
    | some anchor => (anchor, .scalar properties plain text) :: found
    | none => found
  | .sequence properties items =>
    itemsAnchored items <| match properties.anchor with
      | some anchor => (anchor, .sequence properties items) :: found
      | none => found
  | .mapping properties entries =>
    entriesAnchored entries <| match properties.anchor with
      | some anchor => (anchor, .mapping properties entries) :: found
      | none => found

/-- The anchored nodes in a sequence, in front of those found before. -/
def itemsAnchored : List Node → Anchored → Anchored
  | [], found => found
  | item :: rest, found => itemsAnchored rest (item.anchored found)

/-- The anchored nodes in a mapping, in front of those found before. -/
def entriesAnchored : List (Node × Node) → Anchored → Anchored
  | [], found => found
  | (key, value) :: rest, found =>
    entriesAnchored rest (value.anchored (key.anchored found))

end

/-- A collection with its tag when the tag is an application's own. -/
def withTag (tag : Option String) (document : Document) : Document :=
  match Scalar.localTag? tag with
  | some name => .tagged name document
  | none => document

/-- Runs a step on each element with the aliases that may still be followed. -/
def mapBudget {α β : Type} (step : Nat → α → β × Nat) : Nat → List α → List β × Nat
  | budget, [] => ([], budget)
  | budget, a :: rest =>
    let (b, budget) := step budget a
    let (others, budget) := mapBudget step budget rest
    (b :: others, budget)

/-- The document of a node within so many levels, and how many aliases may still be followed. -/
def expand (anchored : Anchored) : (levels : Nat) → (budget : Nat) → Node → Document × Nat
  | levels, budget, node =>
    let (node, budget) : Option Node × Nat := match node with
      | .alias anchor =>
        match budget with
        | 0 => (none, 0)
        | budget + 1 => (anchored.lookup anchor, budget)
      | node => (some node, budget)
    match node, levels with
    | some (.scalar properties plain text), _ => (.scalar plain properties.tag text, budget)
    | some (.sequence properties items), levels + 1 =>
      let (items, budget) := mapBudget (expand anchored levels) budget items
      (withTag properties.tag (.list items), budget)
    | some (.mapping properties entries), levels + 1 =>
      let step (budget : Nat) (entry : Node × Node) : (Document × Document) × Nat :=
        let (key, budget) := expand anchored levels budget entry.1
        let (value, budget) := expand anchored levels budget entry.2
        ((key, value), budget)
      let (entries, budget) := mapBudget step budget entries
      (withTag properties.tag (.table entries), budget)
    | _, _ => (.malformed, budget)

/-- The document of a text; a text without one is like an empty scalar. -/
def read? (text : String) : Option Document := do
  let tokens ← tokens? text.toList
  match ← document? tokens.toList with
  | none => return .scalar true none ""
  | some node =>
    let (document, _) := expand (node.anchored []) depthLimit (aliasesPerEvent * node.events) node
    return document

end ComponentAtlas.Yaml
