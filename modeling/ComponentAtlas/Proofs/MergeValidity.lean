import ComponentAtlas.Proofs.MergeGrouping
import ComponentAtlas.Proofs.MergePaths
import ComponentAtlas.Proofs.WellNamed
import Mathlib.Data.List.Perm.Subperm

/-!
# Validity of merged trees

A merge writes no name that its sources do not have, and what it leaves under a name is directives
exactly when the nodes of the sources under that name are. So valid trees merge to a valid tree, in
which the directives of every node are those under the reserved key.
-/

namespace ComponentAtlas

/-- A key fits the overlay of two nodes that it fits, because the overlay has the kind of one of
them. -/
theorem fitsKey_overlay {key : String} {existing incoming : Node} (hexisting : fitsKey key existing)
    (hincoming : fitsKey key incoming) : fitsKey key (existing.overlay incoming) := by
  cases hext : existing.kind.extendedBy incoming.kind with
  | false => rwa [Node.overlay_of_not_extendedBy hext]
  | true =>
    rw [fitsKey, Node.overlay_of_extendedBy hext, Node.kind_withChildren]
    exact hexisting

/-- The keys of entries fit after others have been laid over them that their keys fit. -/
theorem fitsKey_overlayEntries {base next : Keyed Node}
    (hbase : ∀ entry ∈ base, fitsKey entry.1 entry.2)
    (hnext : ∀ entry ∈ next, fitsKey entry.1 entry.2) :
    ∀ entry ∈ overlayEntries base next, fitsKey entry.1 entry.2 :=
  forall_mem_overlayEntries hbase hnext fun entry hentry _ hold =>
    fitsKey_overlay hold (hnext entry hentry)

/-- Merging two nodes whose children stand under keys that fit them keeps this so. -/
theorem Node.FittingKeys.overlay (existing incoming : Node)
    (hext : existing.kind.extendedBy incoming.kind = true) (hexisting : existing.FittingKeys)
    (hincoming : incoming.FittingKeys) : (existing.overlay incoming).FittingKeys := by
  rw [FittingKeys, overlay_of_extendedBy hext, children_withChildren_of_extendedBy hext]
  exact fitsKey_overlayEntries hexisting hincoming

/-- The overlay of well-named trees is well named. -/
theorem Tree.WellNamed.overlay {base next : Tree} (hbase : base.WellNamed)
    (hnext : next.WellNamed) : (base.overlay next).WellNamed where
  paths := ⟨fitsKey_overlayEntries hbase.paths.1 hnext.paths.1,
    hbase.paths.2.overlayEntries Node.FittingKeys.overlay hnext.paths.2⟩
  names := by
    refine forall_mem_overlayEntries hbase.names hnext.names ?_
    exact fun _ _ _ hname => hname
  prototypes := hbase.prototypes.overlayEntries Node.FittingKeys.overlay hnext.prototypes

/-- The empty tree is well named. -/
theorem Tree.wellNamed_empty : Tree.empty.WellNamed :=
  ⟨wellNamed_nil, fun _ hentry => absurd hentry List.not_mem_nil, trivial⟩

namespace MergePolicy

variable {policy : MergePolicy}

/-- One merge of well-named trees gives a well-named tree. -/
theorem mergeOnto_wellNamed {base result : Tree} {next : DistinctTree} (hbase : base.WellNamed)
    (hnext : next.WellNamed) (h : policy.mergeOnto base next = .ok result) :
    result.WellNamed := by
  obtain ⟨_, rfl⟩ := mergeOnto_eq_ok.mp h
  exact hbase.overlay hnext

/-- Any number of well-named trees merge to a well-named tree. -/
theorem merge_wellNamed {sources : List DistinctTree} {result : Tree}
    (hsources : ∀ source ∈ sources, source.WellNamed)
    (h : policy.merge (trees sources) = .ok result) : result.WellNamed :=
  foldlM_invariant mergeOnto_wellNamed Tree.wellNamed_empty hsources h

end MergePolicy

/-- What holds everywhere among named nodes holds everywhere at the end of a path. -/
theorem EverywhereAmong.follow? {p : Node → Prop} {entries : Keyed Node} {path : List String}
    {node : Node} (h : EverywhereAmong p entries)
    (hfollow : follow? entries path = some node) : node.Everywhere p := by
  induction path generalizing entries with
  | nil => cases hfollow
  | cons key rest ih =>
    cases rest with
    | nil => exact h.node hfollow
    | cons step rest =>
      obtain ⟨above, habove, hbelow⟩ := Option.bind_eq_some_iff.mp hfollow
      exact ih (h.node habove).children hbelow

namespace Node

/-- The children of a node that hold directives. -/
def directiveChildren (node : Node) : Keyed Node :=
  node.children.filter fun entry => entry.2.kind = .directives

/-- Whether a node has directives under the reserved key alone, so that these are its directives. -/
structure DirectivesInPlace (node : Node) : Prop where
  single : node.directiveChildren.length ≤ 1
  key_eq : ∀ entry ∈ node.directiveChildren, entry.1 = metaKey
  metaDirectives?_iff : ∀ entries,
    node.metaDirectives? = some entries ↔ node.get? metaKey = some (.directives entries)

variable {node : Node}

/-- The directives of a node that holds directives are its entries. -/
theorem asDirectives?_eq_some {entries : Keyed Node} :
    node.asDirectives? = some entries ↔ node = .directives entries := by
  cases node <;> simp [asDirectives?]

/-- Children that hold directives stand under the reserved key. -/
theorem key_of_mem_directiveChildren (hkeys : node.FittingKeys) :
    ∀ entry ∈ node.directiveChildren, entry.1 = metaKey := by
  intro entry hentry
  obtain ⟨hmem, hkind⟩ := List.mem_filter.mp hentry
  exact (kind_eq_directives_iff (hkeys entry hmem)).mp (of_decide_eq_true hkind)

/-- Names that are all the reserved one and do not repeat are at most one. -/
theorem length_directiveChildren (hdistinct : node.DistinctChildren) (hkeys : node.FittingKeys) :
    node.directiveChildren.length ≤ 1 := by
  have hnodup : node.directiveChildren.keys.Nodup :=
    hdistinct.sublist (List.filter_sublist.map Prod.fst)
  have hsubset : node.directiveChildren.keys ⊆ [metaKey] := by
    intro key hkey
    obtain ⟨entry, hentry, rfl⟩ := List.mem_map.mp hkey
    exact List.mem_singleton.mpr (key_of_mem_directiveChildren hkeys entry hentry)
  have hlength := (hnodup.subperm hsubset).length_le
  rwa [Keyed.keys, List.length_map] at hlength

/-- The first child that holds directives is the one under the reserved key. -/
theorem metaDirectives?_eq_some (hdistinct : node.DistinctChildren) (hkeys : node.FittingKeys)
    {entries : Keyed Node} :
    node.metaDirectives? = some entries ↔ node.get? metaKey = some (.directives entries) := by
  have hfound : ∀ {entries}, node.metaDirectives? = some entries →
      node.get? metaKey = some (.directives entries) := by
    intro entries h
    obtain ⟨⟨key, child⟩, hmem, hchild⟩ := List.exists_of_findSome?_eq_some h
    obtain rfl := asDirectives?_eq_some.mp hchild
    obtain rfl := (kind_eq_directives_iff (hkeys _ hmem)).mp rfl
    exact Keyed.find?_of_mem hdistinct hmem
  refine ⟨hfound, fun h => ?_⟩
  cases hmeta : node.metaDirectives? with
  | none =>
    have hnone := List.findSome?_eq_none_iff.mp hmeta _ (Keyed.mem_of_find? h)
    cases hnone
  | some others =>
    have hother := hfound hmeta
    rw [h] at hother
    cases hother
    rfl

/-- The directives of a node are in place when no key repeats and all keys fit. -/
theorem directivesInPlace (hdistinct : node.DistinctChildren) (hkeys : node.FittingKeys) :
    node.DirectivesInPlace :=
  ⟨length_directiveChildren hdistinct hkeys, key_of_mem_directiveChildren hkeys,
    fun _ => metaDirectives?_eq_some hdistinct hkeys⟩

end Node

namespace MergePolicy

/-- Valid trees merge to a valid tree. In it every node, the root of a prototype included, has at
most one child that holds directives, which stands under the reserved key and is what the node's
directives are read from. -/
theorem merge_valid {policy : MergePolicy} {sources : List DistinctTree} {merged : Tree}
    (hvalid : ∀ source ∈ sources, source.validate = .ok ())
    (h : policy.merge (trees sources) = .ok merged) :
    merged.validate = .ok () ∧
      ∀ division path node, follow? (merged.entriesOf division) path = some node →
        node.DirectivesInPlace := by
  have hnamed := merge_wellNamed (fun source hsource =>
    Tree.validate_eq_ok.mp (hvalid source hsource)) h
  obtain ⟨merged, rfl⟩ := exists_distinct_of_merge h
  refine ⟨Tree.validate_eq_ok.mpr hnamed, ?_⟩
  intro division path node hfollow
  cases division with
  | paths =>
    have hchildren := merged.distinct.1.2.follow? hfollow
    have hfitting := hnamed.paths.2.follow? hfollow
    exact Node.directivesInPlace hchildren.here hfitting.here
  | prototypes =>
    have hchildren := merged.distinct.2.2.follow? hfollow
    have hfitting := hnamed.prototypes.follow? hfollow
    exact Node.directivesInPlace hchildren.here hfitting.here

/-- A page with directives at its root, and a reference in it that an object extends by others. -/
theorem merge_valid_of_page :
    let page (overrides : Keyed Node) (body : Node) : Tree :=
      { prototypes := [("Page", .object [("body", body), (metaKey, .directives overrides)])] }
    let shown : Keyed Node := [("if", .expression "props.shown")]
    let card := page shown (.reference "Card" [("size", .scalar .null)])
    let placed : Node := .directives [("position", .scalar .null)]
    let extended := page [("process", .object [])] (.object [(metaKey, placed)])
    let whole := page (shown ++ [("process", .object [])])
      (.reference "Card" [("size", .scalar .null), (metaKey, placed)])
    (∀ tree ∈ [card, extended], tree.DistinctKeys) ∧
      (∀ tree ∈ [card, extended], tree.validate = .ok ()) ∧
      strict.merge [card, extended] = .ok whole ∧ whole.validate = .ok () ∧
      ∀ division path node, follow? (whole.entriesOf division) path = some node →
        node.DirectivesInPlace := by
  intro page shown card placed extended whole
  have hdistinct : ∀ tree ∈ [card, extended], tree.DistinctKeys := by decide
  have hvalid : ∀ tree ∈ [card, extended], tree.validate = .ok () := by decide
  have hmerge : strict.merge [card, extended] = .ok whole := rfl
  refine ⟨hdistinct, hvalid, hmerge, ?_⟩
  exact @merge_valid strict [⟨card, by decide⟩, ⟨extended, by decide⟩] whole (by decide) hmerge

end MergePolicy

end ComponentAtlas
