import ComponentAtlas.Proofs.MergeConflicts
import ComponentAtlas.Proofs.OverlayAssociativity

/-!
# What the strict policy keeps

The strict policy lets a node be replaced only by one of the same shape. A leaf has nothing below
it, and an object or directives are merged in, so nodes can get lost in one way only: below a
reference that is laid over an object or over another reference.
-/

namespace ComponentAtlas

/-- Whether the later side has a reference at a path or on the way to it, in a place where the
earlier side has a node too. -/
def InstantiatedOver (base next : Keyed Node) (path : List String) : Prop :=
  ∃ above, above ≠ [] ∧ above <+: path ∧ (∃ existing, follow? base above = some existing) ∧
    ∃ prototype overrides, follow? next above = some (.reference prototype overrides)

/-- Whether a node of a given shape stands at a path. -/
def HasShapeAt (entries : Keyed Node) (path : List String) (shape : Shape) : Prop :=
  ∃ node, follow? entries path = some node ∧ node.kind.shape = shape

section Under

variable {base next : Keyed Node} {key : String} {existing incoming : Node} {rest : List String}

/-- A reference under the first name of a path is laid over all of the path. -/
theorem instantiatedOver_of_head {prototype : String} {overrides : List (String × Node)}
    (hbase : base.find? key = some existing)
    (hnext : next.find? key = some (.reference prototype overrides)) (rest : List String) :
    InstantiatedOver base next (key :: rest) :=
  ⟨[key], List.cons_ne_nil _ _, ⟨rest, rfl⟩, ⟨existing, hbase⟩, prototype, overrides, hnext⟩

/-- A reference that is laid over a path below a node is laid over the path from above. -/
theorem InstantiatedOver.under (h : InstantiatedOver existing.children incoming.children rest)
    (hbase : base.find? key = some existing) (hnext : next.find? key = some incoming) :
    InstantiatedOver base next (key :: rest) := by
  obtain ⟨above, hne, hprefix, hold, hnew⟩ := h
  refine ⟨key :: above, List.cons_ne_nil _ _, List.cons_prefix_cons.mpr ⟨rfl, hprefix⟩, ?_, ?_⟩
  · rwa [follow?_cons_of_find? hbase hne]
  · rwa [follow?_cons_of_find? hnext hne]

/-- The shape of a node at a path below a node is its shape at the path from above. -/
theorem HasShapeAt.under {shape : Shape} (h : HasShapeAt existing.children rest shape)
    (hrest : rest ≠ []) (hbase : base.find? key = some existing) :
    HasShapeAt base (key :: rest) shape := by
  obtain ⟨node, hnode, hshape⟩ := h
  exact ⟨node, by rwa [follow?_cons_of_find? hbase hrest], hshape⟩

end Under

/-- Over a node with children the strict policy allows references and nodes that are merged in. -/
theorem Node.mergesIn_of_children {existing incoming : Node}
    (hallows : MergePolicy.strict.allows existing.kind incoming.kind)
    (hchildren : existing.children ≠ []) (hnot : incoming.kind ≠ .reference) :
    incoming.kind.mergesIn = true := by
  have hshape := MergePolicy.strict_allows.mp hallows
  cases incoming with
  | object _ | directives _ => rfl
  | reference _ _ => exact absurd rfl hnot
  | scalar _ | expression _ =>
    cases existing with
    | scalar _ | expression _ => exact absurd rfl hchildren
    | reference _ _ | object _ | directives _ => cases hshape

/-- What stands at a path is kept unless a reference is laid down on the way. The induction is on
the path: it ends at a reference, or at a node that is merged or replaced by one of its shape, or
goes on below two nodes that are merged. -/
theorem hasShapeAt_or_instantiatedOver {base next : Keyed Node} (hnext : DistinctKeysAmong next)
    (hclash : clashAmong? .strict base next = none) {path : List String} {node : Node}
    (h : follow? base path = some node) :
    HasShapeAt (overlayEntries base next) path node.kind.shape ∨
      InstantiatedOver base next path := by
  induction path generalizing base next with
  | nil => cases h
  | cons key rest ih =>
    have hfind := find?_overlayEntries base hnext.1 key
    cases hbase : base.find? key with
    | none =>
      rw [follow?_of_find?_eq_none hbase] at h
      cases h
    | some existing =>
      cases hincoming : next.find? key with
      | none =>
        rw [hbase, hincoming] at hfind
        have hsame := follow?_congr (hfind.trans hbase.symm) rest
        exact Or.inl ⟨node, hsame.trans h, rfl⟩
      | some incoming =>
        rw [hbase, hincoming] at hfind
        have hallowed := clash?_of_find? hclash hbase hincoming
        obtain ⟨hallows, hchildren⟩ := Node.clash?_eq_none.mp hallowed
        by_cases hreference : incoming.kind = .reference
        · right
          cases incoming with
          | reference prototype overrides => exact instantiatedOver_of_head hbase hincoming rest
          | scalar _ | expression _ | object _ | directives _ => cases hreference
        · cases rest with
          | nil =>
            obtain rfl : existing = node := Option.some.inj (hbase.symm.trans h)
            have hshape := MergePolicy.strict_allows.mp hallows
            exact Or.inl ⟨_, hfind, (Node.shape_overlay hallows).trans hshape.symm⟩
          | cons step rest =>
            have hsteps : step :: rest ≠ [] := List.cons_ne_nil _ _
            rw [follow?_cons_of_find? hbase hsteps] at h
            have hnonempty : existing.children ≠ [] := by
              intro hnil
              rw [hnil, follow?_of_find?_eq_none rfl] at h
              cases h
            obtain ⟨hext, -, hoverlay⟩ := Node.overlay_of_mergesIn hallowed
              (Node.mergesIn_of_children hallows hnonempty hreference)
            rcases ih (hnext.node hincoming).children (hchildren hext) h with hkept | hover
            · rw [← hoverlay] at hkept
              exact Or.inl (hkept.under hsteps hfind)
            · exact Or.inr (hover.under hbase hincoming)

namespace MergePolicy

/-- What the strict policy merges keeps every node of the earlier tree, with its shape, except at
and below places where the later tree puts a reference. No name of a path or prototype is lost. -/
theorem strict_keeps {base result : Tree} {next : DistinctTree}
    (h : strict.mergeOnto base next = .ok result) :
    (∀ division path node, follow? (base.entriesOf division) path = some node →
      HasShapeAt (result.entriesOf division) path node.kind.shape ∨
        InstantiatedOver (base.entriesOf division) (next.entriesOf division) path) ∧
    ∀ division, (base.entriesOf division).keys ⊆ (result.entriesOf division).keys := by
  obtain ⟨hclash, rfl⟩ := mergeOnto_eq_ok.mp h
  constructor
  · intro division path node hnode
    rw [Tree.entriesOf_overlay]
    exact hasShapeAt_or_instantiatedOver (next.distinctAmong division)
      (Tree.clash?_eq_none.mp hclash division) hnode
  · intro division
    rw [Tree.entriesOf_overlay, keys_overlayEntries _ (next.distinctAmong division).1]
    exact List.subset_append_left _ _

/-- A card that an object extends keeps its size, and a card that a reference replaces loses it. -/
theorem strict_keeps_of_cards :
    let card : Node := .reference "Card" [("size", .scalar .null)]
    let page (title body aside : Node) : Tree :=
      { prototypes := [("Page", .object [("title", title), ("body", body), ("aside", aside)])] }
    let base := page (.scalar .null) card card
    let next := page (.expression "props.title") (.object []) (.reference "Text" [])
    let result := page (.expression "props.title") card (.reference "Text" [])
    next.DistinctKeys ∧ strict.mergeOnto base next = .ok result ∧
      HasShapeAt result.prototypes ["Page", "body", "size"] .leaf ∧
      follow? result.prototypes ["Page", "aside", "size"] = none ∧
      InstantiatedOver base.prototypes next.prototypes ["Page", "aside", "size"] ∧
      base.prototypes.keys ⊆ result.prototypes.keys := by
  intro card page base next result
  have hnext : next.DistinctKeys := by decide
  have hmerge : strict.mergeOnto base next = .ok result := rfl
  obtain ⟨hkept, hnames⟩ := @strict_keeps base result ⟨next, hnext⟩ hmerge
  refine ⟨hnext, hmerge, ⟨.scalar .null, rfl, rfl⟩, rfl, ?_, hnames .prototypes⟩
  have hsize := hkept .prototypes ["Page", "aside", "size"] (.scalar .null) rfl
  rcases hsize with ⟨kept, hfound, _⟩ | hover
  · cases hfound
  · exact hover

end MergePolicy

end ComponentAtlas
