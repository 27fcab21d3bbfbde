import ComponentAtlas.Node
import ComponentAtlas.Proofs.KeyedLists

/-!
# Properties of whole subtrees

A property of nodes holds everywhere in a subtree when it holds of the subtree's root and
everywhere below it. The data files give every map distinct names; `DistinctKeys` says so of all
maps in a subtree.
-/

namespace ComponentAtlas

/-- Induction over a subtree: what is to be shown of a node may be assumed of its children. -/
@[elab_as_elim, induction_eliminator]
theorem Node.inductionOn {motive : Node → Prop}
    (scalar : ∀ value, motive (.scalar value))
    (expression : ∀ text, motive (.expression text))
    (reference : ∀ prototype overrides, (∀ entry ∈ overrides, motive entry.2) →
      motive (.reference prototype overrides))
    (object : ∀ properties, (∀ entry ∈ properties, motive entry.2) →
      motive (.object properties))
    (directives : ∀ entries, (∀ entry ∈ entries, motive entry.2) →
      motive (.directives entries)) :
    ∀ node, motive node
  | .scalar value => scalar value
  | .expression text => expression text
  | .reference prototype overrides => reference prototype overrides fun entry _ =>
      inductionOn scalar expression reference object directives entry.2
  | .object properties => object properties fun entry _ =>
      inductionOn scalar expression reference object directives entry.2
  | .directives entries => directives entries fun entry _ =>
      inductionOn scalar expression reference object directives entry.2
termination_by node => sizeOf node
decreasing_by
  all_goals
    have hlt := sizeOf_snd_lt_of_mem ‹_ ∈ _›
    simp only [Node.reference.sizeOf_spec, Node.object.sizeOf_spec, Node.directives.sizeOf_spec]
    omega

/-- Induction over a subtree for properties that treat all kinds of nodes alike. -/
@[elab_as_elim]
theorem Node.inductionOnChildren {motive : Node → Prop}
    (step : ∀ node, (∀ entry ∈ node.children, motive entry.2) → motive node) (node : Node) :
    motive node := by
  induction node with
  | scalar _ | expression _ => exact step _ fun _ hentry => absurd hentry List.not_mem_nil
  | reference _ _ ih | object _ ih | directives _ ih => exact step _ ih

mutual

/-- Whether a property holds of a node and of every node below it. -/
def Node.Everywhere (p : Node → Prop) : Node → Prop
  | .scalar value => p (.scalar value)
  | .expression text => p (.expression text)
  | .reference prototype overrides =>
    p (.reference prototype overrides) ∧ EverywhereAmong p overrides
  | .object properties => p (.object properties) ∧ EverywhereAmong p properties
  | .directives entries => p (.directives entries) ∧ EverywhereAmong p entries

/-- Whether a property holds of named nodes and of every node below them. -/
def EverywhereAmong (p : Node → Prop) : List (String × Node) → Prop
  | [] => True
  | (_, node) :: rest => node.Everywhere p ∧ EverywhereAmong p rest

end

section Everywhere

variable {p : Node → Prop}

/-- What holds everywhere among entries holds everywhere in each of them. -/
theorem everywhereAmong_iff {entries : List (String × Node)} :
    EverywhereAmong p entries ↔ ∀ entry ∈ entries, entry.2.Everywhere p := by
  induction entries with
  | nil => simp [EverywhereAmong]
  | cons entry rest ih => simp [EverywhereAmong, ih]

/-- What holds everywhere among entries holds everywhere in the node under a key. -/
theorem EverywhereAmong.node {entries : Keyed Node} (h : EverywhereAmong p entries) {key : String}
    {node : Node} (hfind : entries.find? key = some node) : node.Everywhere p :=
  everywhereAmong_iff.mp h _ (Keyed.mem_of_find? hfind)

namespace Node

/-- A property holds everywhere in a subtree when it holds at its root and everywhere below. -/
theorem everywhere_iff {node : Node} :
    node.Everywhere p ↔ p node ∧ EverywhereAmong p node.children := by
  cases node <;> simp [Everywhere, children, children?, EverywhereAmong]

/-- What holds everywhere in a node holds of the node. -/
theorem Everywhere.here {node : Node} (h : node.Everywhere p) : p node :=
  (everywhere_iff.mp h).1

/-- What holds everywhere in a node holds everywhere among its children. -/
theorem Everywhere.children {node : Node} (h : node.Everywhere p) :
    EverywhereAmong p node.children :=
  (everywhere_iff.mp h).2

/-- What holds everywhere in a node holds everywhere in each of its children. -/
theorem Everywhere.of_mem {node : Node} (h : node.Everywhere p) {entry : String × Node}
    (hentry : entry ∈ node.children) : entry.2.Everywhere p :=
  everywhereAmong_iff.mp h.children entry hentry

/-- Induction over a subtree in which a property holds everywhere. -/
theorem Everywhere.induction {motive : Node → Prop} {node : Node} (h : node.Everywhere p)
    (step : ∀ node, p node → (∀ entry ∈ node.children, motive entry.2) → motive node) :
    motive node := by
  induction node using inductionOnChildren with
  | step node ih => exact step node h.here fun entry hentry => ih entry hentry (h.of_mem hentry)

mutual

/-- Decides whether a decidable property holds everywhere in a subtree. -/
instance decidableEverywhere [DecidablePred p] : ∀ node : Node, Decidable (node.Everywhere p)
  | .scalar value => inferInstanceAs (Decidable (p (.scalar value)))
  | .expression text => inferInstanceAs (Decidable (p (.expression text)))
  | .reference prototype overrides =>
    @instDecidableAnd _ _ (inferInstanceAs (Decidable (p (.reference prototype overrides))))
      (decidableEverywhereAmong overrides)
  | .object properties =>
    @instDecidableAnd _ _ (inferInstanceAs (Decidable (p (.object properties))))
      (decidableEverywhereAmong properties)
  | .directives entries =>
    @instDecidableAnd _ _ (inferInstanceAs (Decidable (p (.directives entries))))
      (decidableEverywhereAmong entries)

/-- Decides whether a decidable property holds everywhere among named nodes. -/
instance decidableEverywhereAmong [DecidablePred p] :
    ∀ entries : List (String × Node), Decidable (EverywhereAmong p entries)
  | [] => inferInstanceAs (Decidable True)
  | (_, node) :: rest =>
    @instDecidableAnd _ _ (decidableEverywhere node) (decidableEverywhereAmong rest)

end

end Node

end Everywhere

/-- Whether no name occurs twice among the children of a node. -/
def Node.DistinctChildren (node : Node) : Prop :=
  node.children.Distinct

instance : DecidablePred Node.DistinctChildren := fun node =>
  inferInstanceAs (Decidable (List.Nodup node.children.keys))

/-- Whether no name occurs twice in any map of the subtree. -/
def Node.DistinctKeys (node : Node) : Prop :=
  node.Everywhere Node.DistinctChildren

/-- Whether no name occurs twice in a map of nodes or in any map below it. -/
def DistinctKeysAmong (entries : Keyed Node) : Prop :=
  entries.Distinct ∧ EverywhereAmong Node.DistinctChildren entries

/-- No key repeats at any level of an empty list of entries. -/
theorem distinctKeysAmong_nil : DistinctKeysAmong [] :=
  ⟨Keyed.distinct_nil, trivial⟩

/-- Where no key repeats at any level of a node, none repeats among its children. -/
theorem Node.DistinctKeys.children {node : Node} (h : node.DistinctKeys) :
    DistinctKeysAmong node.children :=
  ⟨Everywhere.here h, Everywhere.children h⟩

/-- Where no key repeats at any level among the children of a node, none repeats in the node. -/
theorem DistinctKeysAmong.above {node : Node} (h : DistinctKeysAmong node.children) :
    node.DistinctKeys :=
  Node.everywhere_iff.mpr h

/-- Where no key repeats at any level of entries, none repeats in the node under a key. -/
theorem DistinctKeysAmong.node {entries : Keyed Node} (h : DistinctKeysAmong entries)
    {key : String} {node : Node} (hfind : entries.find? key = some node) : node.DistinctKeys :=
  h.2.node hfind

/-- Where no key repeats at any level of entries, none repeats behind the first of them. -/
theorem DistinctKeysAmong.tail {entry : String × Node} {rest : Keyed Node}
    (h : DistinctKeysAmong (entry :: rest)) : DistinctKeysAmong rest :=
  ⟨(Keyed.distinct_cons.mp h.1).2, h.2.2⟩

/-- Whether no name occurs twice in any map of the tree. -/
def Tree.DistinctKeys (tree : Tree) : Prop :=
  DistinctKeysAmong tree.paths ∧ DistinctKeysAmong tree.prototypes

instance (entries : Keyed Node) : Decidable (DistinctKeysAmong entries) :=
  inferInstanceAs (Decidable (List.Nodup entries.keys ∧ _))

instance (node : Node) : Decidable node.DistinctKeys :=
  inferInstanceAs (Decidable (node.Everywhere Node.DistinctChildren))

instance (tree : Tree) : Decidable tree.DistinctKeys :=
  inferInstanceAs (Decidable (DistinctKeysAmong tree.paths ∧ DistinctKeysAmong tree.prototypes))

end ComponentAtlas
