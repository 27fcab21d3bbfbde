import ComponentAtlas.Proofs.Overlay

/-!
# Outcomes of merging

Merging fails with the first clash and otherwise gives the overlay. Whether there is a clash does
not depend on the position at which nodes are merged, and the overriding policy never has one.
-/

namespace ComponentAtlas

/-- A clash looks up only the names of the incoming entries. -/
theorem clashAmong?_insert {policy : MergePolicy} {base next : Keyed Node} {key : String}
    (hkey : key ∉ next.keys) (node : Node) :
    clashAmong? policy (base.insert key node) next = clashAmong? policy base next := by
  induction next with
  | nil => rfl
  | cons entry rest ih =>
    obtain ⟨name, incoming⟩ := entry
    simp only [Keyed.keys_cons, List.mem_cons, not_or] at hkey
    simp only [clashAmong?, Keyed.find?_insert, if_neg hkey.1, ih hkey.2]

/-- There is no clash among entries exactly when there is none under any name that both sides
have. -/
theorem clashAmong?_eq_none {policy : MergePolicy} {base next : Keyed Node} :
    clashAmong? policy base next = none ↔ ∀ entry ∈ next, ∀ existing,
      base.find? entry.1 = some existing → existing.clash? policy entry.2 = none := by
  induction next with
  | nil => simp [clashAmong?]
  | cons entry rest ih =>
    obtain ⟨key, node⟩ := entry
    rw [List.forall_mem_cons, ← ih, clashAmong?]
    cases base.find? key with
    | none => simp
    | some existing => cases h : existing.clash? policy node <;> simp [h]

/-- The overriding policy objects nowhere. -/
theorem Node.clash?_override (existing incoming : Node) :
    existing.clash? .override incoming = none := by
  induction incoming generalizing existing with
  | scalar _ | expression _ | reference _ _ _ => rfl
  | object properties ih =>
    have hamong : ∀ base, clashAmong? .override base properties = none := fun _ =>
      clashAmong?_eq_none.mpr fun entry hentry old _ => ih entry hentry old
    cases existing <;> simp [clash?, MergePolicy.allows, hamong]
  | directives entries ih =>
    have hamong : ∀ base, clashAmong? .override base entries = none := fun _ =>
      clashAmong?_eq_none.mpr fun entry hentry old _ => ih entry hentry old
    cases existing <;> simp [clash?, MergePolicy.allows, hamong]

/-- Under the overriding policy no entries clash. -/
theorem clashAmong?_override (base next : Keyed Node) : clashAmong? .override base next = none :=
  clashAmong?_eq_none.mpr fun entry _ existing _ => existing.clash?_override entry.2

/-- Under the overriding policy no trees clash. -/
theorem Tree.clash?_override (base next : Tree) : base.clash? .override next = none := by
  simp [clash?, clashAmong?_override]

/-- A node clashes where the policy refuses its kind and otherwise, if it is merged in, where its
entries do. -/
theorem Node.clash?_eq (policy : MergePolicy) (existing incoming : Node) :
    existing.clash? policy incoming =
      if policy.allows existing.kind incoming.kind then
        if existing.kind.extendedBy incoming.kind then
          clashAmong? policy existing.children incoming.children
        else none
      else some ⟨[], existing.kind, incoming.kind⟩ := by
  cases incoming <;> cases existing <;> rfl

namespace MergePolicy

/-- The strict policy looks at shapes alone. -/
theorem strict_allows {existing incoming : Kind} :
    strict.allows existing incoming ↔ existing.shape = incoming.shape :=
  beq_iff_eq

variable {policy : MergePolicy}

/-- Laying named nodes over others one by one is looking for the first clash, when laying each node
is. The entries already written are no longer looked up, because names do not repeat. -/
theorem mergeEntries_eq_of_nodes {next : Keyed Node} (hnext : next.Distinct)
    (hnodes : ∀ entry ∈ next, ∀ path existing, policy.mergeNode path existing entry.2 =
      (existing.clash? policy entry.2).elim (.ok (existing.overlay entry.2))
        fun clash => .error (clash.fault path))
    (parent : PropertyPath) (base : Keyed Node) :
    policy.mergeEntries parent base next =
      (clashAmong? policy base next).elim (.ok (overlayEntries base next))
        fun clash => .error (clash.fault parent) := by
  induction next generalizing base with
  | nil => rfl
  | cons entry rest ih =>
    obtain ⟨key, node⟩ := entry
    obtain ⟨hnew, hrest⟩ := Keyed.distinct_cons.mp hnext
    have hothers := ih hrest fun entry hentry => hnodes entry (List.mem_cons_of_mem _ hentry)
    have hnode := hnodes (key, node) List.mem_cons_self
    cases hfind : base.find? key with
    | none => simp [mergeEntries, clashAmong?, overlayEntries, hfind, hothers,
        clashAmong?_insert hnew]
    | some existing =>
      cases hclash : existing.clash? policy node with
      | some clash => simp [mergeEntries, clashAmong?, hfind, hnode, hclash]
      | none => simp [mergeEntries, clashAmong?, overlayEntries, hfind, hnode, hclash, hothers,
          clashAmong?_insert hnew]

/-- Laying one node over another fails with the first clash and otherwise gives the overlay. -/
theorem mergeNode_eq {incoming : Node} (h : incoming.DistinctKeys) (path : PropertyPath)
    (existing : Node) :
    policy.mergeNode path existing incoming =
      (existing.clash? policy incoming).elim (.ok (existing.overlay incoming))
        fun clash => .error (clash.fault path) := by
  induction incoming generalizing path existing with
  | scalar _ | expression _ | reference _ _ _ =>
    simp only [mergeNode, Node.clash?, Node.overlay]
    split <;> simp [Clash.fault]
  | object properties ih =>
    have hchildren : DistinctKeysAmong properties := h.children
    have hentries := mergeEntries_eq_of_nodes hchildren.1 fun entry hentry =>
      ih entry hentry (everywhereAmong_iff.mp hchildren.2 entry hentry)
    simp only [mergeNode, Node.clash?, Node.overlay]
    split
    · cases existing with
      | object base =>
        simp only [hentries]
        cases clashAmong? policy base properties <;> rfl
      | reference prototype base =>
        simp only [hentries]
        cases clashAmong? policy base properties <;> rfl
      | scalar _ | expression _ | directives _ => rfl
    · simp [Clash.fault]
  | directives entries ih =>
    have hchildren : DistinctKeysAmong entries := h.children
    have hentries := mergeEntries_eq_of_nodes hchildren.1 fun entry hentry =>
      ih entry hentry (everywhereAmong_iff.mp hchildren.2 entry hentry)
    simp only [mergeNode, Node.clash?, Node.overlay]
    split
    · cases existing with
      | directives base =>
        simp only [hentries]
        cases clashAmong? policy base entries <;> rfl
      | scalar _ | expression _ | reference _ _ | object _ => rfl
    · simp [Clash.fault]

/-- Laying named nodes over others fails with the first clash and otherwise gives the overlay. -/
theorem mergeEntries_eq {next : Keyed Node} (h : DistinctKeysAmong next) (parent : PropertyPath)
    (base : Keyed Node) :
    policy.mergeEntries parent base next =
      (clashAmong? policy base next).elim (.ok (overlayEntries base next))
        fun clash => .error (clash.fault parent) :=
  mergeEntries_eq_of_nodes h.1 (fun entry hentry =>
    mergeNode_eq (everywhereAmong_iff.mp h.2 entry hentry)) parent base

/-- Laying prototypes over others fails with the first clash and otherwise gives the overlay. -/
theorem mergePrototypes_eq {next : Keyed Node} (h : DistinctKeysAmong next) (base : Keyed Node) :
    policy.mergePrototypes base next =
      (clashAmong? policy base next).elim (.ok (overlayEntries base next))
        fun clash => .error clash.prototypeFault := by
  induction next generalizing base with
  | nil => rfl
  | cons entry rest ih =>
    obtain ⟨name, node⟩ := entry
    obtain ⟨hnew, _⟩ := Keyed.distinct_cons.mp h.1
    have hnode : ∀ path existing, policy.mergeNode path existing node = _ := mergeNode_eq h.2.1
    cases hfind : base.find? name with
    | none => simp [mergePrototypes, clashAmong?, overlayEntries, hfind, ih h.tail,
        clashAmong?_insert hnew]
    | some existing =>
      cases hclash : existing.clash? policy node with
      | some clash => simp [mergePrototypes, clashAmong?, hfind, hnode, hclash]
      | none => simp [mergePrototypes, clashAmong?, overlayEntries, hfind, hnode, hclash,
          ih h.tail, clashAmong?_insert hnew]

/-- Laying one tree over another fails with the first clash and otherwise gives the overlay. -/
theorem mergeOnto_eq (base : Tree) (next : DistinctTree) :
    policy.mergeOnto base next =
      (base.clash? policy next).elim (.ok (base.overlay next)) .error := by
  simp only [mergeOnto, mergeEntries_eq next.distinct.1, mergePrototypes_eq next.distinct.2,
    Tree.clash?, Tree.overlay]
  cases clashAmong? policy base.paths next.paths with
  | some clash => rfl
  | none => cases clashAmong? policy base.prototypes next.prototypes <;> rfl

/-- Trees merge exactly when they do not clash, and then to the overlay. -/
theorem mergeOnto_eq_ok {base result : Tree} {next : DistinctTree} :
    policy.mergeOnto base next = .ok result ↔
      base.clash? policy next = none ∧ base.overlay next = result := by
  rw [mergeOnto_eq]
  cases base.clash? policy next <;> simp

end MergePolicy

end ComponentAtlas
