import ComponentAtlas.Proofs.NodeInduction
import ComponentAtlas.Tree.Validity

/-!
# Well-named subtrees

The search for a position at fault comes back empty exactly when every node below stands under a key
that fits it. So exactly the well-named trees are valid.
-/

namespace ComponentAtlas

/-- Whether every child of a node stands under a key that fits it. -/
def Node.FittingKeys (node : Node) : Prop :=
  ∀ entry ∈ node.children, fitsKey entry.1 entry.2

/-- Whether named nodes and all nodes below them stand under keys that fit them. -/
def WellNamed (entries : Keyed Node) : Prop :=
  (∀ entry ∈ entries, fitsKey entry.1 entry.2) ∧ EverywhereAmong Node.FittingKeys entries

/-- An empty list of entries is well named. -/
theorem wellNamed_nil : WellNamed [] :=
  ⟨fun _ hentry => absurd hentry List.not_mem_nil, trivial⟩

/-- Entries are well named when the first key fits, and what is below it and the others are well
named. -/
theorem wellNamed_cons {key : String} {node : Node} {rest : Keyed Node} :
    WellNamed ((key, node) :: rest) ↔
      fitsKey key node ∧ WellNamed node.children ∧ WellNamed rest := by
  rw [WellNamed, List.forall_mem_cons, EverywhereAmong, Node.everywhere_iff]
  constructor
  · rintro ⟨⟨hkey, hkeys⟩, hnode, hrest⟩
    exact ⟨hkey, hnode, hkeys, hrest⟩
  · rintro ⟨hkey, hnode, hkeys, hrest⟩
    exact ⟨⟨hkey, hkeys⟩, hnode, hrest⟩

/-- The children of a well-named entry are well named. -/
theorem WellNamed.of_mem {entries : Keyed Node} (h : WellNamed entries) {entry : String × Node}
    (hentry : entry ∈ entries) : WellNamed entry.2.children :=
  (Node.everywhere_iff.mp (everywhereAmong_iff.mp h.2 entry hentry))

/-- The fault below a node is the one among its children. -/
theorem Node.firstFault?_eq (node : Node) (path : PropertyPath) :
    node.firstFault? path = firstFaultAmong? path node.children := by
  cases node <;> rfl

/-- Entries have no fault exactly when they are well named, if this is so of the node in each of
them. -/
theorem firstFaultAmong?_eq_none_of {entries : Keyed Node}
    (h : ∀ entry ∈ entries, ∀ path, entry.2.firstFault? path = none ↔ WellNamed entry.2.children)
    (parent : PropertyPath) : firstFaultAmong? parent entries = none ↔ WellNamed entries := by
  induction entries with
  | nil => exact ⟨fun _ => wellNamed_nil, fun _ => rfl⟩
  | cons entry rest ih =>
    obtain ⟨key, node⟩ := entry
    obtain ⟨hnode, hrest⟩ := List.forall_mem_cons.mp h
    rw [firstFaultAmong?, wellNamed_cons, ← hnode (parent.child key), ← ih hrest]
    by_cases hfits : fitsKey key node
    · rw [if_pos hfits]
      cases node.firstFault? (parent.child key) with
      | some found => simp
      | none => simp [hfits]
    · simp [hfits]

/-- No position below a node is at fault exactly when all keys below it fit. -/
theorem Node.firstFault?_eq_none {node : Node} (path : PropertyPath) :
    node.firstFault? path = none ↔ WellNamed node.children := by
  induction node using Node.inductionOnChildren generalizing path with
  | step node ih =>
    rw [firstFault?_eq]
    exact firstFaultAmong?_eq_none_of ih path

/-- No position among named nodes is at fault exactly when all keys fit. -/
theorem firstFaultAmong?_eq_none {entries : Keyed Node} (parent : PropertyPath) :
    firstFaultAmong? parent entries = none ↔ WellNamed entries :=
  firstFaultAmong?_eq_none_of (fun _ _ => Node.firstFault?_eq_none) parent

/-- Whether a tree has no empty prototype name and all its other names fit. -/
structure Tree.WellNamed (tree : Tree) : Prop where
  paths : ComponentAtlas.WellNamed tree.paths
  names : ∀ entry ∈ tree.prototypes, entry.1 ≠ ""
  prototypes : EverywhereAmong Node.FittingKeys tree.prototypes

/-- No position among prototypes is at fault exactly when no name is empty and all keys below fit. -/
theorem Tree.firstPrototypeFault?_eq_none {entries : Keyed Node} :
    firstPrototypeFault? entries = none ↔
      (∀ entry ∈ entries, entry.1 ≠ "") ∧ EverywhereAmong Node.FittingKeys entries := by
  induction entries with
  | nil => simp [firstPrototypeFault?, EverywhereAmong]
  | cons entry rest ih =>
    obtain ⟨name, node⟩ := entry
    have hnode : node.firstFault? (.ofPrototype name) = none ↔ node.Everywhere Node.FittingKeys := by
      rw [Node.firstFault?_eq_none, Node.everywhere_iff]
      rfl
    rw [firstPrototypeFault?, List.forall_mem_cons, EverywhereAmong, ← hnode]
    by_cases hname : name = ""
    · simp [hname]
    · rw [if_neg hname]
      cases node.firstFault? (.ofPrototype name) with
      | some found => simp
      | none => simp [hname, ih]

/-- Exactly the well-named trees are valid. -/
theorem Tree.validate_eq_ok {tree : Tree} : tree.validate = .ok () ↔ tree.WellNamed := by
  have hvalid : tree.validate = .ok () ↔ firstFaultAmong? .ofPaths tree.paths = none ∧
      firstPrototypeFault? tree.prototypes = none := by
    rw [validate]
    cases firstFaultAmong? .ofPaths tree.paths <;>
      cases firstPrototypeFault? tree.prototypes <;> simp
  rw [hvalid, firstFaultAmong?_eq_none, firstPrototypeFault?_eq_none]
  exact ⟨fun ⟨hpaths, hnames, hbelow⟩ => ⟨hpaths, hnames, hbelow⟩,
    fun ⟨hpaths, hnames, hbelow⟩ => ⟨hpaths, hnames, hbelow⟩⟩

/-- A key fits directives exactly when it is the reserved one. -/
theorem kind_eq_directives_iff {key : String} {node : Node} (h : fitsKey key node) :
    node.kind = .directives ↔ key = metaKey := by
  simp only [fitsKey, Bool.and_eq_true, beq_iff_eq] at h
  rw [← beq_iff_eq, ← h.2, beq_iff_eq]

end ComponentAtlas
