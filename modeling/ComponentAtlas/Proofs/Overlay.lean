import ComponentAtlas.Merge
import ComponentAtlas.Proofs.DistinctTrees

/-!
# Overlays and clashes

A merge does two things that can be told apart: it computes the tree that results, and it looks for
the first position at which the policy objects. `Node.overlay` is the first without the second, and
`Node.clash?` the second without the first. Merging is looking for a clash and, when there is none,
overlaying.
-/

namespace ComponentAtlas

/-- Whether the entries of a node of the second kind are merged into those of a node of the first
kind. In every other case the second node replaces the first. -/
def Kind.extendedBy : Kind → Kind → Bool
  | .object, .object | .directives, .directives | .reference, .object => true
  | _, _ => false

mutual

/-- The node that remains when a second one is laid over it. -/
def Node.overlay (existing : Node) : Node → Node
  | .scalar value => .scalar value
  | .expression text => .expression text
  | .reference prototype overrides => .reference prototype overrides
  | .object properties =>
    match existing with
    | .object base => .object (overlayEntries base properties)
    | .reference prototype base => .reference prototype (overlayEntries base properties)
    | _ => .object properties
  | .directives entries =>
    match existing with
    | .directives base => .directives (overlayEntries base entries)
    | _ => .directives entries

/-- The named nodes that remain when others are laid over them. -/
def overlayEntries (base : Keyed Node) : List (String × Node) → Keyed Node
  | [] => base
  | (key, node) :: rest =>
    match base.find? key with
    | some existing => overlayEntries (base.insert key (existing.overlay node)) rest
    | none => overlayEntries (base.insert key node) rest

end

/-- The tree that remains when a second one is laid over it. -/
def Tree.overlay (base next : Tree) : Tree :=
  { paths := overlayEntries base.paths next.paths
    prototypes := overlayEntries base.prototypes next.prototypes }

/-- A position at which a policy objects, with the kinds of the two nodes there. -/
structure Clash where
  /-- The names on the way to the position. -/
  steps : List String
  existing : Kind
  incoming : Kind
  deriving DecidableEq

namespace Clash

/-- The same position seen from one level higher. -/
def under (clash : Clash) (key : String) : Clash :=
  { clash with steps := key :: clash.steps }

/-- The fault that reports the clash below a given position. -/
def fault (clash : Clash) (path : PropertyPath) : Fault :=
  .mergeConflict { path with segments := path.segments ++ clash.steps } clash.existing
    clash.incoming

/-- The fault that reports the clash among prototypes, whose names are roots of paths. -/
def prototypeFault (clash : Clash) : Fault :=
  { clash with steps := clash.steps.tail }.fault (.ofPrototype (clash.steps.headD ""))

/-- A clash under a key is a fault at the path of the key. -/
@[simp] theorem fault_under (clash : Clash) (key : String) (path : PropertyPath) :
    (clash.under key).fault path = clash.fault (path.child key) := by
  simp [fault, under, PropertyPath.child]

/-- A clash under the name of a prototype is a fault of the prototype. -/
@[simp] theorem prototypeFault_under (clash : Clash) (name : String) :
    (clash.under name).prototypeFault = clash.fault (.ofPrototype name) := rfl

end Clash

mutual

/-- The first position at which a policy refuses to lay the second node over the first. -/
def Node.clash? (policy : MergePolicy) (existing : Node) : Node → Option Clash
  | .scalar _ =>
    if policy.allows existing.kind .scalar then none else some ⟨[], existing.kind, .scalar⟩
  | .expression _ =>
    if policy.allows existing.kind .expression then none
    else some ⟨[], existing.kind, .expression⟩
  | .reference _ _ =>
    if policy.allows existing.kind .reference then none else some ⟨[], existing.kind, .reference⟩
  | .object properties =>
    if policy.allows existing.kind .object then
      match existing with
      | .object base | .reference _ base => clashAmong? policy base properties
      | _ => none
    else some ⟨[], existing.kind, .object⟩
  | .directives entries =>
    if policy.allows existing.kind .directives then
      match existing with
      | .directives base => clashAmong? policy base entries
      | _ => none
    else some ⟨[], existing.kind, .directives⟩

/-- The first position at which a policy refuses to lay named nodes over others. -/
def clashAmong? (policy : MergePolicy) (base : Keyed Node) : List (String × Node) → Option Clash
  | [] => none
  | (key, node) :: rest =>
    match base.find? key with
    | some existing =>
      match existing.clash? policy node with
      | some clash => some (clash.under key)
      | none => clashAmong? policy base rest
    | none => clashAmong? policy base rest

end

/-- The fault with which a policy refuses to lay the second tree over the first. -/
def Tree.clash? (policy : MergePolicy) (base next : Tree) : Option Fault :=
  match clashAmong? policy base.paths next.paths with
  | some clash => some (clash.fault .ofPaths)
  | none => (clashAmong? policy base.prototypes next.prototypes).map Clash.prototypeFault

section Entries

variable {next : Keyed Node}

/-- Under a name that only one side has, that side's node is kept; under a shared name the second
node is laid over the first. -/
theorem find?_overlayEntries (base : Keyed Node) (hnext : next.Distinct) (name : String) :
    (overlayEntries base next).find? name =
      (base.find? name).merge Node.overlay (next.find? name) := by
  induction next generalizing base with
  | nil => cases h : base.find? name <;> simp [overlayEntries, h, Option.merge]
  | cons entry rest ih =>
    obtain ⟨key, node⟩ := entry
    obtain ⟨hnew, hrest⟩ := Keyed.distinct_cons.mp hnext
    by_cases hname : key = name
    · subst hname
      cases h : base.find? key <;>
        simp [overlayEntries, h, ih _ hrest, Keyed.find?_insert, Keyed.find?_eq_none.mpr hnew,
          Option.merge]
    · cases h : base.find? key <;>
        simp [overlayEntries, h, ih _ hrest, Keyed.find?_insert, hname]

/-- The names already present keep their order and new ones follow in theirs. -/
theorem keys_overlayEntries (base : Keyed Node) (hnext : next.Distinct) :
    (overlayEntries base next).keys = base.keys ++ next.keys.filter (· ∉ base.keys) := by
  induction next generalizing base with
  | nil => simp [overlayEntries]
  | cons entry rest ih =>
    obtain ⟨key, node⟩ := entry
    obtain ⟨hnew, hrest⟩ := Keyed.distinct_cons.mp hnext
    cases h : base.find? key with
    | some existing =>
      have hmem := Keyed.mem_keys_of_find? h
      simp [overlayEntries, h, ih _ hrest, Keyed.keys_insert, hmem]
    | none =>
      have hmem := Keyed.find?_eq_none.mp h
      have hfilter : (Keyed.keys rest).filter (· ∉ base.keys ++ [key]) =
          (Keyed.keys rest).filter (· ∉ base.keys) := by
        refine List.filter_congr fun name hname => ?_
        have hne : name ≠ key := fun heq => hnew (heq ▸ hname)
        simp [hne]
      simp only [overlayEntries, h, ih _ hrest, Keyed.keys_insert, if_neg hmem, hfilter,
        Keyed.keys_cons]
      simp [hmem]

/-- No name repeats when entries are laid over others in which none does. -/
theorem distinct_overlayEntries {base : Keyed Node} (hbase : base.Distinct) (next : Keyed Node) :
    (overlayEntries base next).Distinct := by
  induction next generalizing base with
  | nil => exact hbase
  | cons entry rest ih =>
    obtain ⟨key, node⟩ := entry
    rw [overlayEntries]
    split <;> exact ih (hbase.insert _ _)

end Entries

namespace Node

/-- The node with other entries in place of its own. -/
def withChildren : Node → Keyed Node → Node
  | .reference prototype _, entries => .reference prototype entries
  | .object _, entries => .object entries
  | .directives _, entries => .directives entries
  | leaf, _ => leaf

/-- The prototype that a reference names. -/
def referenced? : Node → Option String
  | .reference prototype _ => some prototype
  | _ => none

/-- A node keeps its kind when it is given other children. -/
@[simp] theorem kind_withChildren (node : Node) (entries : Keyed Node) :
    (node.withChildren entries).kind = node.kind := by
  cases node <;> rfl

/-- A node refers to the same prototype when it is given other children. -/
@[simp] theorem referenced?_withChildren (node : Node) (entries : Keyed Node) :
    (node.withChildren entries).referenced? = node.referenced? := by
  cases node <;> rfl

/-- A node that another can be merged into takes the children that it is given. -/
theorem children_withChildren_of_extendedBy {existing incoming : Node}
    (h : existing.kind.extendedBy incoming.kind) (entries : Keyed Node) :
    (existing.withChildren entries).children = entries := by
  cases existing <;> cases incoming <;> first | rfl | simp [kind, Kind.extendedBy] at h

/-- A node that extends another is merged into it entry by entry. -/
theorem overlay_of_extendedBy {existing incoming : Node}
    (h : existing.kind.extendedBy incoming.kind) :
    existing.overlay incoming =
      existing.withChildren (overlayEntries existing.children incoming.children) := by
  cases existing <;> cases incoming <;> first | rfl | simp [kind, Kind.extendedBy] at h

/-- A node that does not extend another replaces it. -/
theorem overlay_of_not_extendedBy {existing incoming : Node}
    (h : existing.kind.extendedBy incoming.kind = false) :
    existing.overlay incoming = incoming := by
  cases existing <;> cases incoming <;> first | rfl | simp [kind, Kind.extendedBy] at h

end Node

/-- What holds of all entries on both sides holds of all entries of the overlay, when it passes to
the nodes that are laid over others. -/
theorem forall_mem_overlayEntries {q : String × Node → Prop} {base next : Keyed Node}
    (hbase : ∀ entry ∈ base, q entry) (hnext : ∀ entry ∈ next, q entry)
    (hnodes : ∀ entry ∈ next, ∀ existing : Node, q (entry.1, existing) →
      q (entry.1, existing.overlay entry.2)) :
    ∀ entry ∈ overlayEntries base next, q entry := by
  induction next generalizing base with
  | nil => exact hbase
  | cons entry rest ih =>
    obtain ⟨key, node⟩ := entry
    obtain ⟨hentry, hrest⟩ := List.forall_mem_cons.mp hnext
    obtain ⟨hnode, hothers⟩ := List.forall_mem_cons.mp hnodes
    rw [overlayEntries]
    cases hfind : base.find? key with
    | none => exact ih (Keyed.forall_mem_insert hbase hentry) hrest hothers
    | some existing =>
      have hold := hbase (key, existing) (Keyed.mem_of_find? hfind)
      exact ih (Keyed.forall_mem_insert hbase (hnode existing hold)) hrest hothers

section Everywhere

variable {p : Node → Prop}
  (hmerged : ∀ existing incoming : Node, existing.kind.extendedBy incoming.kind = true →
    p existing → p incoming → p (existing.overlay incoming))

include hmerged

/-- What holds everywhere in two nodes holds everywhere in their overlay, when it passes from two
nodes that are merged to the result. -/
theorem Node.Everywhere.overlay {existing incoming : Node} (hexisting : existing.Everywhere p)
    (hincoming : incoming.Everywhere p) : (existing.overlay incoming).Everywhere p := by
  induction incoming using Node.inductionOnChildren generalizing existing with
  | step incoming ih =>
    cases hext : existing.kind.extendedBy incoming.kind with
    | false => rwa [Node.overlay_of_not_extendedBy hext]
    | true =>
      refine Node.everywhere_iff.mpr ⟨hmerged _ _ hext hexisting.here hincoming.here, ?_⟩
      rw [Node.overlay_of_extendedBy hext, Node.children_withChildren_of_extendedBy hext,
        everywhereAmong_iff]
      refine forall_mem_overlayEntries (everywhereAmong_iff.mp hexisting.children)
        (everywhereAmong_iff.mp hincoming.children) ?_
      exact fun entry hentry _ hold => ih entry hentry hold (hincoming.of_mem hentry)

/-- What holds everywhere in two lists of entries, and of nodes that are merged, holds everywhere in
their overlay. -/
theorem EverywhereAmong.overlayEntries {base next : Keyed Node} (hbase : EverywhereAmong p base)
    (hnext : EverywhereAmong p next) : EverywhereAmong p (overlayEntries base next) := by
  rw [everywhereAmong_iff] at hbase hnext ⊢
  refine forall_mem_overlayEntries hbase hnext ?_
  exact fun entry hentry _ hold => hold.overlay hmerged (hnext entry hentry)

end Everywhere

/-- Merging two nodes with distinct names among their children keeps these names distinct. -/
theorem Node.DistinctChildren.overlay (existing incoming : Node)
    (hext : existing.kind.extendedBy incoming.kind = true) (hexisting : existing.DistinctChildren)
    (_ : incoming.DistinctChildren) : (existing.overlay incoming).DistinctChildren := by
  rw [DistinctChildren, overlay_of_extendedBy hext, children_withChildren_of_extendedBy hext]
  exact distinct_overlayEntries hexisting incoming.children

/-- Overlays of nodes whose maps have distinct names have distinct names as well. -/
theorem DistinctKeysAmong.overlayEntries {base next : Keyed Node}
    (hbase : DistinctKeysAmong base) (hnext : DistinctKeysAmong next) :
    DistinctKeysAmong (overlayEntries base next) :=
  ⟨distinct_overlayEntries hbase.1 next,
    hbase.2.overlayEntries Node.DistinctChildren.overlay hnext.2⟩

/-- Lays one distinct tree over another. -/
def DistinctTree.overlay (base next : DistinctTree) : DistinctTree where
  toTree := base.toTree.overlay next
  distinct := ⟨base.distinct.1.overlayEntries next.distinct.1,
    base.distinct.2.overlayEntries next.distinct.2⟩

end ComponentAtlas
