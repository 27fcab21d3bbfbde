import ComponentAtlas.Anatomy
import ComponentAtlas.Proofs.KeyedLists

/-!
# Parts of subtrees

The parts of a prototype are those of its entries one after the other, with repetitions dropped.
What an entry contributes depends on its own subtree, on the role of the node around it and on its
key, which counts for every node except one that holds directives.
-/

namespace ComponentAtlas

namespace Node

/-- The parts among the children of a node with a given role. -/
def childParts (role : List String) : Node → List Part
  | .directives entries => directiveParts role entries
  | node => partsAmong role node.children

/-- The parts that a node contributes to a node with a given role in which it stands under a key. -/
def partsUnder (role : List String) (key : String) : Node → List Part
  | .directives entries => directiveParts role entries
  | node => node.partsAt (role ++ [key])

/-- The part that a node with a given role is itself, if it is an instance. -/
def ownParts (role : List String) : Node → List Part
  | .reference prototype _ => [⟨roleText role, prototype⟩]
  | _ => []

/-- The parts at and below a node are what it is itself and what its children contribute. -/
theorem partsAt_eq (role : List String) (node : Node) :
    node.partsAt role = node.ownParts role ++ node.childParts role := by
  cases node <;> rfl

/-- A prototype is made of the parts among its children; an instance at its root is not one. -/
theorem anatomy_parts (node : Node) : node.anatomy.parts = distinct (node.childParts []) := by
  cases node <;> rfl

end Node

/-- Entries contribute their parts one after the other. -/
theorem partsAmong_eq_flatMap (role : List String) (entries : List (String × Node)) :
    partsAmong role entries = entries.flatMap fun entry => entry.2.partsUnder role entry.1 := by
  induction entries with
  | nil => rfl
  | cons entry rest ih =>
    obtain ⟨key, node⟩ := entry
    cases node <;> simp only [partsAmong, List.flatMap_cons, Node.partsUnder, ih]

/-- Directives contribute their parts one after the other, each under its directive step. -/
theorem directiveParts_eq_flatMap (role : List String) (entries : List (String × Node)) :
    directiveParts role entries =
      entries.flatMap fun entry => entry.2.partsAt (role ++ [directiveStep entry.1]) := by
  induction entries with
  | nil => rfl
  | cons entry rest ih => simp only [directiveParts, List.flatMap_cons, ih]

namespace Node

/-- What an entry contributes to the parts of a node of a given kind. -/
def entryParts (kind : Kind) (role : List String) (entry : String × Node) : List Part :=
  if kind = .directives then entry.2.partsAt (role ++ [directiveStep entry.1])
  else entry.2.partsUnder role entry.1

/-- The children of a node contribute their parts one after the other, as its kind has it. -/
theorem childParts_eq_flatMap (role : List String) (node : Node) :
    node.childParts role = node.children.flatMap (entryParts node.kind role) := by
  cases node with
  | scalar _ | expression _ => rfl
  | reference _ entries | object entries => exact partsAmong_eq_flatMap role entries
  | directives entries => exact directiveParts_eq_flatMap role entries

end Node

end ComponentAtlas
