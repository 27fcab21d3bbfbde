import ComponentAtlas.Proofs.MergeGrouping

/-!
# Absorption of the last source

A tree that was laid over another is laid over the result in vain: wherever the two meet, the result
allows the later node and is left as it is. This also holds where a merge has kept the kind of the
earlier node, because a reference that an object extends can be extended by the same object again.
-/

namespace ComponentAtlas

/-- Whether a second node may be laid over a first and changes nothing there. -/
structure Node.Absorbs (policy : MergePolicy) (node incoming : Node) : Prop where
  allowed : node.clash? policy incoming = none
  unchanged : node.overlay incoming = node

/-- Whether every one of the later nodes meets, under its name, one that absorbs it. -/
def AbsorbsAmong (policy : MergePolicy) (base next : Keyed Node) : Prop :=
  ∀ entry ∈ next, ∃ node, base.find? entry.1 = some node ∧ node.Absorbs policy entry.2

namespace AbsorbsAmong

variable {policy : MergePolicy} {base next : Keyed Node}

/-- Entries that absorb others do not clash with them. -/
theorem clashAmong? (h : AbsorbsAmong policy base next) :
    clashAmong? policy base next = none := by
  refine clashAmong?_eq_none.mpr fun entry hentry existing hexisting => ?_
  obtain ⟨node, hnode, habsorbs⟩ := h entry hentry
  obtain rfl : node = existing := Option.some.inj (hnode.symm.trans hexisting)
  exact habsorbs.allowed

/-- Entries that absorb others stay as they are when these are laid over them. -/
theorem overlayEntries (h : AbsorbsAmong policy base next) : overlayEntries base next = base := by
  induction next with
  | nil => rfl
  | cons entry rest ih =>
    obtain ⟨⟨node, hnode, habsorbs⟩, hrest⟩ := List.forall_mem_cons.mp h
    rw [ComponentAtlas.overlayEntries, hnode]
    simp only [habsorbs.unchanged, Keyed.insert_of_find? hnode, ih hrest]

end AbsorbsAmong

/-- Every policy allows two nodes of one kind. -/
theorem MergePolicy.allows_self (policy : MergePolicy) (kind : Kind) : policy.allows kind kind := by
  cases policy <;> simp [allows]

namespace Node

variable {policy : MergePolicy} {node incoming existing : Node}

/-- A node stays as it is when it is given its own children. -/
theorem withChildren_children (node : Node) : node.withChildren node.children = node := by
  cases node <;> rfl

/-- A node absorbs another of an allowed kind when it equals it or, where the other is merged in,
its children absorb those of the other. -/
theorem absorbs_of_children (hallows : policy.allows node.kind incoming.kind)
    (hmerged : node.kind.extendedBy incoming.kind = true →
      AbsorbsAmong policy node.children incoming.children)
    (hreplaced : node.kind.extendedBy incoming.kind = false → incoming = node) :
    node.Absorbs policy incoming := by
  constructor
  · exact clash?_eq_none.mpr ⟨hallows, fun hext => (hmerged hext).clashAmong?⟩
  · cases hext : node.kind.extendedBy incoming.kind with
    | false => rw [overlay_of_not_extendedBy hext, hreplaced hext]
    | true => rw [overlay_of_extendedBy hext, (hmerged hext).overlayEntries, withChildren_children]

/-- A node in which no name repeats absorbs itself. -/
theorem absorbs_self (h : node.DistinctKeys) : node.Absorbs policy node := by
  induction node using inductionOnChildren with
  | step node ih =>
    refine absorbs_of_children (policy.allows_self node.kind) (fun _ => ?_) fun _ => rfl
    intro entry hentry
    exact ⟨entry.2, Keyed.find?_of_mem h.children.1 hentry, ih entry hentry (h.of_mem hentry)⟩

end Node

/-- Entries laid over others are absorbed by the result when the nodes that are laid over others
are. -/
theorem absorbsAmong_overlayEntries_of_nodes {policy : MergePolicy} {base next : Keyed Node}
    (hnext : DistinctKeysAmong next) (hclash : clashAmong? policy base next = none)
    (hnodes : ∀ entry ∈ next, ∀ existing : Node, existing.clash? policy entry.2 = none →
      (existing.overlay entry.2).Absorbs policy entry.2) :
    AbsorbsAmong policy (overlayEntries base next) next := by
  intro entry hentry
  have hfind := find?_overlayEntries base hnext.1 entry.1
  have hincoming := Keyed.find?_of_mem hnext.1 hentry
  cases hexisting : base.find? entry.1 with
  | none =>
    rw [hexisting, hincoming] at hfind
    exact ⟨entry.2, hfind, Node.absorbs_self (hnext.node hincoming)⟩
  | some existing =>
    rw [hexisting, hincoming] at hfind
    exact ⟨existing.overlay entry.2, hfind,
      hnodes entry hentry existing (clashAmong?_eq_none.mp hclash entry hentry existing hexisting)⟩

/-- A node that could be laid over another is absorbed by the result. -/
theorem Node.absorbs_overlay {policy : MergePolicy} {existing incoming : Node}
    (h : incoming.DistinctKeys) (hclash : existing.clash? policy incoming = none) :
    (existing.overlay incoming).Absorbs policy incoming := by
  induction incoming using inductionOnChildren generalizing existing with
  | step incoming ih =>
    cases hext : existing.kind.extendedBy incoming.kind with
    | false =>
      rw [overlay_of_not_extendedBy hext]
      exact absorbs_self h
    | true =>
      obtain ⟨hallows, hchildren⟩ := clash?_eq_none.mp hclash
      have hkind : (existing.overlay incoming).kind = existing.kind := by
        rw [overlay_of_extendedBy hext, kind_withChildren]
      refine absorbs_of_children (hkind ▸ hallows) (fun _ => ?_) fun hnot => ?_
      · rw [overlay_of_extendedBy hext, children_withChildren_of_extendedBy hext]
        exact absorbsAmong_overlayEntries_of_nodes h.children (hchildren hext)
          fun entry hentry _ => ih entry hentry (h.of_mem hentry)
      · rw [hkind, hext] at hnot
        cases hnot

/-- Entries that were laid over others without a clash are absorbed by the result. -/
theorem absorbsAmong_overlayEntries {policy : MergePolicy} {base next : Keyed Node}
    (hnext : DistinctKeysAmong next) (hclash : clashAmong? policy base next = none) :
    AbsorbsAmong policy (overlayEntries base next) next :=
  absorbsAmong_overlayEntries_of_nodes hnext hclash fun entry hentry _ =>
    Node.absorbs_overlay (everywhereAmong_iff.mp hnext.2 entry hentry)

namespace MergePolicy

/-- What a merge of two trees gives absorbs the later tree, the order of names at every depth
included. -/
theorem mergeOnto_merged {policy : MergePolicy} {base merged : Tree} {next : DistinctTree}
    (h : policy.mergeOnto base next = .ok merged) : policy.mergeOnto merged next = .ok merged := by
  obtain ⟨hclash, rfl⟩ := mergeOnto_eq_ok.mp h
  have habsorbs : ∀ division, AbsorbsAmong policy ((base.overlay next).entriesOf division)
      (next.entriesOf division) := by
    intro division
    rw [Tree.entriesOf_overlay]
    exact absorbsAmong_overlayEntries (next.distinctAmong division)
      (Tree.clash?_eq_none.mp hclash division)
  refine mergeOnto_eq_ok.mpr ⟨?_, ?_⟩
  · exact Tree.clash?_eq_none.mpr fun division => (habsorbs division).clashAmong?
  · refine Tree.ext_entriesOf fun division => ?_
    rw [Tree.entriesOf_overlay, (habsorbs division).overlayEntries]

/-- Merging the last source once more changes nothing, under either policy, and so a tree merges
with itself to itself. -/
theorem mergeOnto_again (policy : MergePolicy) :
    (∀ (base merged : Tree) (next : DistinctTree), policy.mergeOnto base next = .ok merged →
      policy.mergeOnto merged next = .ok merged) ∧
    ∀ tree : DistinctTree, policy.mergeOnto tree tree = .ok tree :=
  ⟨fun _ _ _ => mergeOnto_merged, fun tree => mergeOnto_merged (mergeOnto_empty_left tree)⟩

/-- An object that extends a reference, beside a reference and a leaf that replace others, is
merged twice. -/
theorem mergeOnto_again_of_card :
    let page (title body icon : Node) : Tree :=
      { prototypes := [("Page", .object [("title", title), ("body", body), ("icon", icon)])] }
    let base := page (.scalar .null) (.reference "Card" [("size", .scalar .null)])
      (.object [("glyph", .scalar .null)])
    let next := page (.expression "props.title")
      (.object [("width", .scalar .null), ("size", .expression "props.size")])
      (.reference "Icon" [])
    let merged := page (.expression "props.title")
      (.reference "Card" [("size", .expression "props.size"), ("width", .scalar .null)])
      (.reference "Icon" [])
    (next.DistinctKeys ∧ merged.DistinctKeys) ∧ strict.mergeOnto base next = .ok merged ∧
      strict.mergeOnto merged next = .ok merged ∧
      override.mergeOnto merged merged = .ok merged := by
  intro page base next merged
  have hnext : next.DistinctKeys := by decide
  have hmerged : merged.DistinctKeys := by decide
  have hmerge : strict.mergeOnto base next = .ok merged := rfl
  exact ⟨⟨hnext, hmerged⟩, hmerge, (mergeOnto_again strict).1 base merged ⟨next, hnext⟩ hmerge,
    (mergeOnto_again override).2 ⟨merged, hmerged⟩⟩

end MergePolicy

end ComponentAtlas
