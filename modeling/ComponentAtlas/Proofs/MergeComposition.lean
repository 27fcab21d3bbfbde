import ComponentAtlas.Proofs.AnatomyParts
import ComponentAtlas.Proofs.MergeGrouping

/-!
# Composition of merged prototypes

A merge puts instances together but makes none up. The role of an instance depends on the keys on
the way to it and on which of the nodes there hold directives, and a merged node holds directives
exactly when both nodes that it is merged from do. So every part of a merged prototype is a part
of that prototype in one of the sources.
-/

namespace ComponentAtlas

/-- Only directives are merged into directives. -/
theorem Kind.eq_directives_iff_of_extendedBy {existing incoming : Kind}
    (h : existing.extendedBy incoming) : incoming = .directives ↔ existing = .directives := by
  revert h
  cases existing <;> cases incoming <;> decide

namespace Node

/-- Entries that are merged into others contribute in the same way as these. -/
theorem entryParts_of_extendedBy {existing incoming : Kind} (h : existing.extendedBy incoming)
    (role : List String) : entryParts incoming role = entryParts existing role := by
  funext entry
  simp only [entryParts, Kind.eq_directives_iff_of_extendedBy h]

/-- Directives contribute the parts among their children, whatever key they stand under. -/
theorem partsUnder_of_directives {node : Node} (h : node.kind = .directives) (role : List String)
    (key : String) : node.partsUnder role key = node.childParts role := by
  cases node <;> first | rfl | cases h

/-- Any node but directives contributes the parts at and below it under its key. -/
theorem partsUnder_of_not_directives {node : Node} (h : node.kind ≠ .directives)
    (role : List String) (key : String) :
    node.partsUnder role key = node.partsAt (role ++ [key]) := by
  cases node <;> first | rfl | exact absurd rfl h

end Node

/-- What entries contribute to a merge is what the entries of both sides do, when this is so for the
nodes that are laid over others. -/
theorem flatMap_overlayEntries_subset {f : String × Node → List Part} {base next : Keyed Node}
    (h : ∀ entry ∈ next, ∀ existing : Node,
      f (entry.1, existing.overlay entry.2) ⊆ f (entry.1, existing) ++ f entry) :
    (overlayEntries base next).flatMap f ⊆ base.flatMap f ++ next.flatMap f := by
  have hmem : ∀ {entries : Keyed Node}, ∀ entry ∈ entries, f entry ⊆ entries.flatMap f :=
    fun entry hentry part hpart => List.mem_flatMap.mpr ⟨entry, hentry, hpart⟩
  have hentries : ∀ entry ∈ overlayEntries base next,
      f entry ⊆ base.flatMap f ++ next.flatMap f := by
    apply forall_mem_overlayEntries
    · exact fun entry hentry => List.subset_append_of_subset_left _ (hmem entry hentry)
    · exact fun entry hentry => List.subset_append_of_subset_right _ (hmem entry hentry)
    · intro entry hentry existing hexisting part hpart
      rcases List.mem_append.mp (h entry hentry existing hpart) with hold | hnew
      · exact hexisting hold
      · exact List.mem_append_right _ (hmem entry hentry hnew)
  intro part hpart
  obtain ⟨entry, hentry, hpart⟩ := List.mem_flatMap.mp hpart
  exact hentries entry hentry hpart

namespace Node

/-- A node is the same part itself when it is given other children. -/
theorem ownParts_withChildren (role : List String) (node : Node) (entries : Keyed Node) :
    (node.withChildren entries).ownParts role = node.ownParts role := by
  cases node <;> rfl

section Overlay

variable {existing incoming : Node}
  (hchildren : ∀ role, (existing.overlay incoming).childParts role ⊆
    existing.childParts role ++ incoming.childParts role)

include hchildren

/-- The parts at and below an overlay are parts of the two nodes when this is so among the children.
-/
theorem partsAt_overlay_subset_of_children (role : List String) :
    (existing.overlay incoming).partsAt role ⊆ existing.partsAt role ++ incoming.partsAt role := by
  cases hext : existing.kind.extendedBy incoming.kind with
  | false =>
    rw [overlay_of_not_extendedBy hext]
    exact List.subset_append_right _ _
  | true =>
    have hown : (existing.overlay incoming).ownParts role = existing.ownParts role := by
      rw [overlay_of_extendedBy hext, ownParts_withChildren]
    intro part hpart
    rw [partsAt_eq, hown] at hpart
    rw [partsAt_eq role existing, partsAt_eq role incoming]
    rcases List.mem_append.mp hpart with hroot | hbelow
    · simp [hroot]
    · rcases List.mem_append.mp (hchildren role hbelow) with hold | hnew
      · simp [hold]
      · simp [hnew]

/-- What an overlay contributes under a key comes from the two nodes when this is so among the
children. -/
theorem partsUnder_overlay_subset_of_children (role : List String) (key : String) :
    (existing.overlay incoming).partsUnder role key ⊆
      existing.partsUnder role key ++ incoming.partsUnder role key := by
  cases hext : existing.kind.extendedBy incoming.kind with
  | false =>
    rw [overlay_of_not_extendedBy hext]
    exact List.subset_append_right _ _
  | true =>
    have hkind : (existing.overlay incoming).kind = existing.kind := by
      rw [overlay_of_extendedBy hext, kind_withChildren]
    by_cases hdirectives : existing.kind = .directives
    · rw [partsUnder_of_directives (hkind.trans hdirectives), partsUnder_of_directives hdirectives,
        partsUnder_of_directives ((Kind.eq_directives_iff_of_extendedBy hext).mpr hdirectives)]
      exact hchildren role
    · have hincoming := mt (Kind.eq_directives_iff_of_extendedBy hext).mp hdirectives
      rw [partsUnder_of_not_directives (hkind ▸ hdirectives),
        partsUnder_of_not_directives hdirectives, partsUnder_of_not_directives hincoming]
      exact partsAt_overlay_subset_of_children hchildren _

/-- What an overlay contributes as an entry comes from the two nodes when this is so among the
children. -/
theorem entryParts_overlay_subset_of_children (kind : Kind) (role : List String) (key : String) :
    entryParts kind role (key, existing.overlay incoming) ⊆
      entryParts kind role (key, existing) ++ entryParts kind role (key, incoming) := by
  unfold entryParts
  split
  · exact partsAt_overlay_subset_of_children hchildren _
  · exact partsUnder_overlay_subset_of_children hchildren role key

end Overlay

/-- The parts among the children of an overlay are parts among the children of the two nodes. Where
the incoming node replaces the existing one there is nothing to show; where it is merged in, its
entries are laid over entries that contribute in the same way. -/
theorem childParts_overlay_subset (existing incoming : Node) (role : List String) :
    (existing.overlay incoming).childParts role ⊆
      existing.childParts role ++ incoming.childParts role := by
  induction incoming using inductionOnChildren generalizing existing role with
  | step incoming ih =>
    cases hext : existing.kind.extendedBy incoming.kind with
    | false =>
      rw [overlay_of_not_extendedBy hext]
      exact List.subset_append_right _ _
    | true =>
      have hentries : (overlayEntries existing.children incoming.children).flatMap
          (entryParts existing.kind role) ⊆
            existing.children.flatMap (entryParts existing.kind role) ++
              incoming.children.flatMap (entryParts existing.kind role) := by
        apply flatMap_overlayEntries_subset
        intro entry hentry old
        exact entryParts_overlay_subset_of_children (fun role => ih entry hentry old role)
          existing.kind role entry.1
      rw [childParts_eq_flatMap role existing, childParts_eq_flatMap role incoming,
        entryParts_of_extendedBy hext, overlay_of_extendedBy hext, childParts_eq_flatMap,
        kind_withChildren, children_withChildren_of_extendedBy hext]
      exact hentries

/-- A prototype extends the one that its root refers to. -/
theorem anatomy_parent (node : Node) : node.anatomy.parent = node.referenced? := by
  cases node <;> rfl

/-- An overlay extends no prototype that neither node does. -/
theorem referenced?_overlay (existing incoming : Node) :
    (existing.overlay incoming).referenced? = existing.referenced? ∨
      (existing.overlay incoming).referenced? = incoming.referenced? := by
  cases hext : existing.kind.extendedBy incoming.kind with
  | false =>
    rw [overlay_of_not_extendedBy hext]
    exact Or.inr rfl
  | true =>
    rw [overlay_of_extendedBy hext, referenced?_withChildren]
    exact Or.inl rfl

/-- A node refers to a prototype when it is a reference to it. -/
theorem referenced?_eq_some {node : Node} {prototype : String} :
    node.referenced? = some prototype ↔ ∃ overrides, node = .reference prototype overrides := by
  cases node <;> simp [referenced?]

/-- Whether all that a prototype is made of and the prototype that it extends are those of some of
the given definitions. -/
structure ComposedFrom (definitions : List Node) (node : Node) : Prop where
  parts : ∀ part ∈ node.anatomy.parts, ∃ definition ∈ definitions, part ∈ definition.anatomy.parts
  parent : ∀ parent, node.anatomy.parent = some parent →
    ∃ definition ∈ definitions, ∃ overrides, definition = .reference parent overrides

/-- Each of the definitions is composed from them. -/
theorem ComposedFrom.of_mem {definitions : List Node} {node : Node} (h : node ∈ definitions) :
    node.ComposedFrom definitions where
  parts _ hpart := ⟨node, h, hpart⟩
  parent _ hparent := ⟨node, h, referenced?_eq_some.mp (anatomy_parent node ▸ hparent)⟩

/-- Laying one definition over another brings in nothing that is in neither. -/
theorem ComposedFrom.overlay {definitions : List Node} {existing incoming : Node}
    (hexisting : existing.ComposedFrom definitions)
    (hincoming : incoming.ComposedFrom definitions) :
    (existing.overlay incoming).ComposedFrom definitions where
  parts part hpart := by
    rw [anatomy_parts, mem_distinct] at hpart
    rcases List.mem_append.mp (childParts_overlay_subset existing incoming [] hpart) with
      hold | hnew
    · exact hexisting.parts part (by rwa [anatomy_parts, mem_distinct])
    · exact hincoming.parts part (by rwa [anatomy_parts, mem_distinct])
  parent parent hparent := by
    rw [anatomy_parent] at hparent
    rcases referenced?_overlay existing incoming with hold | hnew
    · exact hexisting.parent parent (by rwa [anatomy_parent, ← hold])
    · exact hincoming.parent parent (by rwa [anatomy_parent, ← hnew])

end Node

/-- The definitions that sources give of a prototype, in order. -/
def definitionsOf (sources : List Tree) (name : String) : List Node :=
  sources.filterMap fun source => source.prototypes.find? name

/-- Whether every prototype of a tree is composed from the definitions that sources give of it. -/
def Tree.ComposedFrom (sources : List Tree) (tree : Tree) : Prop :=
  ∀ name node, tree.prototypes.find? name = some node →
    node.ComposedFrom (definitionsOf sources name)

/-- The prototypes of each of the sources are composed from them. -/
theorem Tree.ComposedFrom.of_mem {sources : List Tree} {tree : Tree} (h : tree ∈ sources) :
    tree.ComposedFrom sources := by
  intro name node hfind
  exact .of_mem (List.mem_filterMap.mpr ⟨tree, h, hfind⟩)

/-- Laying a tree over another composes every prototype from definitions of either. -/
theorem Tree.ComposedFrom.overlay {sources : List Tree} {base : Tree} {next : DistinctTree}
    (hbase : base.ComposedFrom sources) (hnext : next.ComposedFrom sources) :
    (base.overlay next).ComposedFrom sources := by
  intro name node hfind
  change (overlayEntries base.prototypes next.prototypes).find? name = some node at hfind
  rw [find?_overlayEntries _ next.distinct.2.1, Option.merge_eq_some_iff] at hfind
  rcases hfind with ⟨hold, -⟩ | ⟨-, hnew⟩ | ⟨existing, incoming, hold, hnew, rfl⟩
  · exact hbase name node hold
  · exact hnext name node hnew
  · exact (hbase name existing hold).overlay (hnext name incoming hnew)

namespace MergePolicy

variable {policy : MergePolicy}

/-- One merge composes every prototype from the definitions that its two trees are composed from. -/
theorem mergeOnto_composedFrom {sources : List Tree} {base result : Tree} {next : DistinctTree}
    (hbase : base.ComposedFrom sources) (hnext : next.ComposedFrom sources)
    (h : policy.mergeOnto base next = .ok result) : result.ComposedFrom sources := by
  obtain ⟨_, rfl⟩ := mergeOnto_eq_ok.mp h
  exact hbase.overlay hnext

/-- Merging invents no composition: every part of a merged prototype is a part of it in one of the
sources that define it, and the prototype that it extends is the one at its root in one of them. -/
theorem merge_composedFrom {sources : List DistinctTree} {merged : Tree}
    (h : policy.merge (trees sources) = .ok merged) : merged.ComposedFrom (trees sources) := by
  have hempty : Tree.empty.ComposedFrom (trees sources) := by
    intro name node hfind
    cases hfind
  exact foldlM_invariant mergeOnto_composedFrom hempty
    (fun source hsource => .of_mem (List.mem_map_of_mem hsource)) h

/-- A page that extends a layout, and a source that extends the page and an icon in it. The badge
becomes a part of the page under the role that it has in the second source, where the icon is an
object. -/
theorem merge_composedFrom_of_page :
    let page : Tree := { prototypes := [("Page", .reference "Layout"
      [("icon", .reference "Icon" [("size", .scalar .null)]),
        (metaKey, .directives [("process", .object [("wrap", .reference "Wrapper" [])])])])] }
    let site : Tree := { prototypes := [("Page", .object
      [("icon", .object [("badge", .reference "Badge" [])]),
        (metaKey, .directives [("process", .object [("trim", .reference "Trim" [])])])])] }
    let merged : Tree := { prototypes := [("Page", .reference "Layout"
      [("icon", .reference "Icon" [("size", .scalar .null), ("badge", .reference "Badge" [])]),
        (metaKey, .directives [("process", .object
          [("wrap", .reference "Wrapper" []), ("trim", .reference "Trim" [])])])])] }
    (∀ source ∈ [page, site], source.DistinctKeys) ∧ strict.merge [page, site] = .ok merged ∧
      merged.ComposedFrom [page, site] := by
  intro page site merged
  have hdistinct : ∀ source ∈ [page, site], source.DistinctKeys := by decide
  have hmerge : strict.merge [page, site] = .ok merged := rfl
  exact ⟨hdistinct, hmerge,
    @merge_composedFrom strict [⟨page, by decide⟩, ⟨site, by decide⟩] merged hmerge⟩

end MergePolicy

end ComponentAtlas
