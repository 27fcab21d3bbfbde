import ComponentAtlas.Proofs.AnatomyParts
import ComponentAtlas.Proofs.NodeInduction
import Mathlib.Data.List.Basic

/-!
# Nodes in document order

The nodes of a subtree stand in document order: a node before what is below it, and that in the
order of the children. Each has a place, the steps that lead to it. A child adds its key, a
directive its name with an at sign, and directives among properties add no step. The roles of an
anatomy are these places.
-/

namespace ComponentAtlas

/-- The steps from a node of the first kind to a child of the second kind under a key. -/
def Kind.stepsTo (owner child : Kind) (key : String) : List String :=
  if owner = .directives then [directiveStep key]
  else if child = .directives then []
  else [key]

/-- A node and the steps that lead to it. -/
structure Located where
  steps : List String
  node : Node

mutual

/-- A node with a given place and the nodes below it, in document order. -/
def Node.located (steps : List String) : Node → List Located
  | .scalar value => [⟨steps, .scalar value⟩]
  | .expression text => [⟨steps, .expression text⟩]
  | .reference prototype overrides =>
    ⟨steps, .reference prototype overrides⟩ :: locatedAmong .reference steps overrides
  | .object properties => ⟨steps, .object properties⟩ :: locatedAmong .object steps properties
  | .directives entries => ⟨steps, .directives entries⟩ :: locatedAmong .directives steps entries

/-- The children of a node of a given kind and place and the nodes below them, in document order. -/
def locatedAmong (owner : Kind) (steps : List String) : List (String × Node) → List Located
  | [] => []
  | (key, node) :: rest =>
    node.located (steps ++ owner.stepsTo node.kind key) ++ locatedAmong owner steps rest

end

/-- A node stands before its children, which stand where its kind has them. -/
theorem Node.located_eq (steps : List String) (node : Node) :
    node.located steps = ⟨steps, node⟩ :: locatedAmong node.kind steps node.children := by
  cases node <;> rfl

/-- The nodes at and below entries come one entry after the other. -/
theorem locatedAmong_eq_flatMap (owner : Kind) (steps : List String)
    (entries : List (String × Node)) :
    locatedAmong owner steps entries = entries.flatMap fun entry =>
      entry.2.located (steps ++ owner.stepsTo entry.2.kind entry.1) := by
  induction entries with
  | nil => rfl
  | cons entry rest ih => simp only [locatedAmong, List.flatMap_cons, ih]

/-- Steps to the children of a node are steps to those of an object, unless it holds directives. -/
theorem Kind.stepsTo_of_ne {owner : Kind} (h : owner ≠ .directives) (child : Kind) (key : String) :
    owner.stepsTo child key = Kind.object.stepsTo child key := by
  simp [stepsTo, h]

/-- The entries of anything but directives stand where those of an object would. -/
theorem locatedAmong_of_ne {owner : Kind} (h : owner ≠ .directives) (steps : List String)
    (entries : List (String × Node)) :
    locatedAmong owner steps entries = locatedAmong .object steps entries := by
  simp only [locatedAmong_eq_flatMap, Kind.stepsTo_of_ne h]

/-- Document order leaves no node out. -/
theorem Node.everywhere_iff_located {p : Node → Prop} {node : Node} (steps : List String) :
    node.Everywhere p ↔ ∀ found ∈ node.located steps, p found.node := by
  induction node using inductionOnChildren generalizing steps with
  | step node ih =>
    rw [everywhere_iff, everywhereAmong_iff, located_eq, List.forall_mem_cons,
      locatedAmong_eq_flatMap, List.forall_mem_flatMap]
    exact and_congr_right fun _ => forall₂_congr fun entry hentry => ih entry hentry _

/-- What holds at and below entries holds of all nodes located there. -/
theorem everywhereAmong_iff_located {p : Node → Prop} {entries : Keyed Node} (owner : Kind)
    (steps : List String) :
    EverywhereAmong p entries ↔ ∀ found ∈ locatedAmong owner steps entries, p found.node := by
  rw [everywhereAmong_iff, locatedAmong_eq_flatMap, List.forall_mem_flatMap]
  exact forall₂_congr fun entry _ => Node.everywhere_iff_located _

/-- The part that a node is, if it is an instance. -/
def Located.part? (found : Located) : Option Part :=
  match found.node with
  | .reference prototype _ => some ⟨roleText found.steps, prototype⟩
  | _ => none

namespace Node

/-- An entry contributes the parts at its place. -/
theorem entryParts_eq (owner : Kind) (role : List String) (entry : String × Node) :
    entryParts owner role entry =
      entry.2.partsAt (role ++ owner.stepsTo entry.2.kind entry.1) := by
  obtain ⟨key, node⟩ := entry
  by_cases howner : owner = .directives
  · rw [entryParts, Kind.stepsTo, if_pos howner, if_pos howner]
  · rw [entryParts, Kind.stepsTo, if_neg howner, if_neg howner]
    cases node with
    | directives entries => simp [partsUnder, partsAt, kind]
    | scalar _ | expression _ | reference _ _ | object _ => rfl

/-- The parts among the children of a node are the instances there, when this is so for each
child. -/
theorem childParts_eq_located_of_children {node : Node}
    (h : ∀ entry ∈ node.children, ∀ steps,
      entry.2.partsAt steps = (entry.2.located steps).filterMap Located.part?)
    (steps : List String) : node.childParts steps =
      (locatedAmong node.kind steps node.children).filterMap Located.part? := by
  rw [childParts_eq_flatMap, locatedAmong_eq_flatMap, List.filterMap_flatMap]
  refine List.flatMap_congr fun entry hentry => ?_
  rw [entryParts_eq, h entry hentry]

/-- The parts at and below a node are the instances there, in document order. -/
theorem partsAt_eq_located (steps : List String) (node : Node) :
    node.partsAt steps = (node.located steps).filterMap Located.part? := by
  induction node using inductionOnChildren generalizing steps with
  | step node ih =>
    have hown : [Located.mk steps node].filterMap Located.part? = node.ownParts steps := by
      cases node <;> rfl
    rw [partsAt_eq, located_eq, ← List.singleton_append, List.filterMap_append, hown,
      childParts_eq_located_of_children fun entry hentry steps => ih entry hentry steps]

/-- A prototype is made of the instances below its root, in document order and each once, and the
role of an instance is its place. -/
theorem anatomy_parts_eq_located (node : Node) : node.anatomy.parts =
    distinct ((locatedAmong node.kind [] node.children).filterMap Located.part?) := by
  rw [anatomy_parts,
    childParts_eq_located_of_children fun entry _ steps => partsAt_eq_located steps entry.2]

end Node

end ComponentAtlas
