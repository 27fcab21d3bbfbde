import ComponentAtlas.Proofs.MergeOutcome

/-!
# Merging position by position

What stands at a path of a merged tree is decided by what stands at the same path and on the way to
it in the two trees: below the first position where the later node replaces the earlier one it is
the later tree that counts, and elsewhere both.
-/

namespace ComponentAtlas

/-- The node that a sequence of names leads to, descending through properties, directives and
overrides. -/
def follow? : Keyed Node → List String → Option Node
  | _, [] => none
  | entries, [key] => entries.find? key
  | entries, key :: step :: rest =>
    (entries.find? key).bind fun node => follow? node.children (step :: rest)

/-- Whether both sides have a node at a path and the later one replaces the earlier one. -/
def TakesOver (base next : Keyed Node) (path : List String) : Prop :=
  ∃ existing incoming, follow? base path = some existing ∧ follow? next path = some incoming ∧
    existing.kind.extendedBy incoming.kind = false

/-- Whether the later side takes over somewhere on the way to a path or at its end. -/
def TakenOver (base next : Keyed Node) (path : List String) : Prop :=
  ∃ before, before ≠ [] ∧ before <+: path ∧ TakesOver base next before

/-- What must stand at a path when entries are laid over others. -/
structure LaidOver (base next result : Keyed Node) (path : List String) : Prop where
  /-- Where the later side has taken over, it alone counts. -/
  replaced : TakenOver base next path → follow? result path = follow? next path
  /-- Elsewhere, what the later side does not have is left as it was. -/
  kept : ¬TakenOver base next path → follow? next path = none →
    follow? result path = follow? base path
  /-- What only the later side has is added. -/
  added : ¬TakenOver base next path → follow? base path = none →
    follow? result path = follow? next path
  /-- What both sides have keeps its kind, its prototype and the order of its names; the names
  that only the later side has follow in theirs. -/
  merged : ¬TakenOver base next path → ∀ existing incoming, follow? base path = some existing →
    follow? next path = some incoming → ∃ node, follow? result path = some node ∧
      node.kind = existing.kind ∧ node.referenced? = existing.referenced? ∧
      node.children.keys =
        existing.children.keys ++ incoming.children.keys.filter (· ∉ existing.children.keys)

section Follow

variable {base next : Keyed Node} {key : String}

/-- A path does not lead anywhere when there is nothing under its first name. -/
theorem follow?_of_find?_eq_none (h : base.find? key = none) (rest : List String) :
    follow? base (key :: rest) = none := by
  cases rest <;> simp [follow?, h]

/-- A path depends only on what stands under its first name. -/
theorem follow?_congr (h : base.find? key = next.find? key) (rest : List String) :
    follow? base (key :: rest) = follow? next (key :: rest) := by
  cases rest <;> simp [follow?, h]

/-- Nothing is taken over on a path when one side has nothing under its first name. -/
theorem not_takenOver_of_find?_eq_none
    (h : base.find? key = none ∨ next.find? key = none) (rest : List String) :
    ¬TakenOver base next (key :: rest) := by
  rintro ⟨before, hne, hprefix, existing, incoming, hbase, hnext, _⟩
  cases before with
  | nil => exact hne rfl
  | cons first others =>
    obtain ⟨rfl, _⟩ := List.cons_prefix_cons.mp hprefix
    rcases h with h | h
    · rw [follow?_of_find?_eq_none h] at hbase
      cases hbase
    · rw [follow?_of_find?_eq_none h] at hnext
      cases hnext

variable {existing incoming : Node}

/-- The whole path is taken over where the node under its first name is replaced. -/
theorem takenOver_of_head (hbase : base.find? key = some existing)
    (hnext : next.find? key = some incoming)
    (hkind : existing.kind.extendedBy incoming.kind = false) (rest : List String) :
    TakenOver base next (key :: rest) :=
  ⟨[key], List.cons_ne_nil _ _, ⟨rest, rfl⟩, existing, incoming, hbase, hnext, hkind⟩

/-- A node into which the later one is merged is not taken over. -/
theorem not_takenOver_singleton (hbase : base.find? key = some existing)
    (hnext : next.find? key = some incoming)
    (hkind : existing.kind.extendedBy incoming.kind = true) : ¬TakenOver base next [key] := by
  rintro ⟨before, hne, hprefix, old, new, hold, hnew, hfalse⟩
  obtain rfl : before = [key] := by
    rcases List.prefix_cons_iff.mp hprefix with rfl | ⟨others, rfl, hothers⟩
    · exact absurd rfl hne
    · rw [List.prefix_nil.mp hothers]
  rw [follow?, hbase, Option.some.injEq] at hold
  rw [follow?, hnext, Option.some.injEq] at hnew
  subst hold hnew
  rw [hkind] at hfalse
  cases hfalse

/-- Below two nodes of which the later extends the earlier, it is their entries that decide. -/
theorem takenOver_cons (hbase : base.find? key = some existing)
    (hnext : next.find? key = some incoming)
    (hkind : existing.kind.extendedBy incoming.kind = true) (step : String) (rest : List String) :
    TakenOver base next (key :: step :: rest) ↔
      TakenOver existing.children incoming.children (step :: rest) := by
  constructor
  · rintro ⟨before, hne, hprefix, htakes⟩
    rcases List.prefix_cons_iff.mp hprefix with rfl | ⟨others, rfl, hothers⟩
    · exact absurd rfl hne
    · cases others with
      | nil =>
        exact absurd ⟨[key], hne, List.prefix_refl _, htakes⟩
          (not_takenOver_singleton hbase hnext hkind)
      | cons first others =>
        refine ⟨first :: others, List.cons_ne_nil _ _, hothers, ?_⟩
        simpa only [TakesOver, follow?, hbase, hnext, Option.bind_some] using htakes
  · rintro ⟨before, hne, hprefix, htakes⟩
    cases before with
    | nil => exact absurd rfl hne
    | cons first others =>
      refine ⟨key :: first :: others, List.cons_ne_nil _ _,
        List.cons_prefix_cons.mpr ⟨rfl, hprefix⟩, ?_⟩
      simpa only [TakesOver, follow?, hbase, hnext, Option.bind_some] using htakes

end Follow

/-- Every path of an overlay holds what it must. The induction is on the path: it either ends at
the first name, or leaves the part of the trees where both count, or goes on below the two nodes
under the first name. -/
theorem overlayEntries_laidOver {base next : Keyed Node} (hnext : DistinctKeysAmong next)
    {path : List String} (hpath : path ≠ []) :
    LaidOver base next (overlayEntries base next) path := by
  induction path generalizing base next with
  | nil => exact absurd rfl hpath
  | cons key rest ih =>
    have hfind := find?_overlayEntries base hnext.1 key
    cases hbase : base.find? key with
    | none =>
      have hhead : (overlayEntries base next).find? key = next.find? key := by
        cases h : next.find? key <;> simp [hfind, hbase, h, Option.merge]
      have hresult := follow?_congr hhead rest
      have hmissing := follow?_of_find?_eq_none hbase rest
      refine ⟨fun _ => hresult, fun _ hnone => ?_, fun _ _ => hresult, fun _ existing _ hsome => ?_⟩
      · rw [hresult, hnone, hmissing]
      · rw [hmissing] at hsome
        cases hsome
    | some existing =>
      cases hincoming : next.find? key with
      | none =>
        have hresult :
            follow? (overlayEntries base next) (key :: rest) = follow? base (key :: rest) :=
          follow?_congr (by simp [hfind, hbase, hincoming, Option.merge]) rest
        have hmissing := follow?_of_find?_eq_none hincoming rest
        have hnot : ¬TakenOver base next (key :: rest) :=
          not_takenOver_of_find?_eq_none (Or.inr hincoming) rest
        refine ⟨fun htaken => absurd htaken hnot, fun _ _ => hresult, fun _ hnone => ?_,
          fun _ _ incoming _ hsome => ?_⟩
        · rw [hresult, hnone, hmissing]
        · rw [hmissing] at hsome
          cases hsome
      | some incoming =>
        have hhead : (overlayEntries base next).find? key = some (existing.overlay incoming) := by
          simp [hfind, hbase, hincoming, Option.merge]
        cases hkind : existing.kind.extendedBy incoming.kind with
        | false =>
          have htaken := takenOver_of_head hbase hincoming hkind rest
          have hresult :
              follow? (overlayEntries base next) (key :: rest) = follow? next (key :: rest) :=
            follow?_congr (by rw [hhead, hincoming, Node.overlay_of_not_extendedBy hkind]) rest
          exact ⟨fun _ => hresult, fun hnot => absurd htaken hnot, fun hnot => absurd htaken hnot,
            fun hnot => absurd htaken hnot⟩
        | true =>
          have hchildren : (existing.overlay incoming).children =
              overlayEntries existing.children incoming.children := by
            rw [Node.overlay_of_extendedBy hkind, Node.children_withChildren_of_extendedBy hkind]
          have hdistinct := (hnext.node hincoming).children
          cases rest with
          | nil =>
            have hnot := not_takenOver_singleton hbase hincoming hkind
            refine ⟨fun htaken => absurd htaken hnot, fun _ hnone => ?_, fun _ hnone => ?_,
              fun _ old new hold hnew => ⟨existing.overlay incoming, hhead, ?_⟩⟩
            · simp [follow?, hincoming] at hnone
            · simp [follow?, hbase] at hnone
            · obtain rfl : existing = old := by simpa [follow?, hbase] using hold
              obtain rfl : incoming = new := by simpa [follow?, hincoming] using hnew
              rw [hchildren, keys_overlayEntries _ hdistinct.1, Node.overlay_of_extendedBy hkind]
              simp
          | cons step rest =>
            have hbelow : LaidOver existing.children incoming.children _ (step :: rest) :=
              ih hdistinct (List.cons_ne_nil _ _)
            have htaken := takenOver_cons hbase hincoming hkind step rest
            constructor <;>
              simp only [htaken, follow?, hbase, hincoming, hhead, hchildren, Option.bind_some]
            · exact hbelow.replaced
            · exact hbelow.kept
            · exact hbelow.added
            · exact hbelow.merged

/-- The two maps of a tree. -/
inductive Division
  | paths
  | prototypes
  deriving DecidableEq

namespace Tree

/-- The entries of one of the two maps of a tree. -/
def entriesOf (tree : Tree) : Division → Keyed Node
  | .paths => tree.paths
  | .prototypes => tree.prototypes

/-- A tree consists of its two maps. -/
theorem ext_entriesOf {left right : Tree}
    (h : ∀ division, left.entriesOf division = right.entriesOf division) : left = right := by
  obtain ⟨paths, prototypes⟩ := left
  obtain rfl : paths = right.paths := h .paths
  obtain rfl : prototypes = right.prototypes := h .prototypes
  rfl

/-- Laying a tree over another lays its paths over the paths and its prototypes over the prototypes.
-/
theorem entriesOf_overlay (base next : Tree) (division : Division) :
    (base.overlay next).entriesOf division =
      overlayEntries (base.entriesOf division) (next.entriesOf division) := by
  cases division <;> rfl

/-- Two trees do not clash exactly when neither of their two maps does. -/
theorem clash?_eq_none {policy : MergePolicy} {base next : Tree} :
    base.clash? policy next = none ↔
      ∀ division, clashAmong? policy (base.entriesOf division) (next.entriesOf division) = none := by
  have hboth : base.clash? policy next = none ↔
      clashAmong? policy base.paths next.paths = none ∧
        clashAmong? policy base.prototypes next.prototypes = none := by
    rw [clash?]
    cases clashAmong? policy base.paths next.paths <;> simp
  rw [hboth]
  constructor
  · rintro ⟨hpaths, hprototypes⟩ division
    cases division with
    | paths => exact hpaths
    | prototypes => exact hprototypes
  · exact fun h => ⟨h .paths, h .prototypes⟩

end Tree

/-- The names in either map of a distinct tree are distinct. -/
theorem DistinctTree.distinctAmong (tree : DistinctTree) (division : Division) :
    DistinctKeysAmong (tree.entriesOf division) := by
  cases division with
  | paths => exact tree.distinct.1
  | prototypes => exact tree.distinct.2

namespace Tree

/-- The overriding policy merges any two trees, and what stands at any path of the result is
determined by the path alone. -/
theorem mergeOnto_override_laidOver (base : Tree) (next : DistinctTree) :
    ∃ result, MergePolicy.override.mergeOnto base next = .ok result ∧
      ∀ division path, path ≠ [] → LaidOver (base.entriesOf division) (next.entriesOf division)
        (result.entriesOf division) path := by
  refine ⟨base.overlay next, ?_, fun division path hpath => ?_⟩
  · exact MergePolicy.mergeOnto_eq_ok.mpr ⟨base.clash?_override next, rfl⟩
  · rw [entriesOf_overlay]
    exact overlayEntries_laidOver (next.distinctAmong division) hpath

/-- A reference that an object extends stands next to an object that a leaf replaces. -/
theorem mergeOnto_override_laidOver_page :
    let base : Tree :=
      { paths := [("page", .reference "Page" [("title", .scalar .null), ("body", .object [])])] }
    let next : Tree :=
      { paths := [("page", .object [("body", .expression "content"), ("icon", .scalar .null)])] }
    next.DistinctKeys ∧ ∃ result, MergePolicy.override.mergeOnto base next = .ok result ∧
      ∀ division path, path ≠ [] → LaidOver (base.entriesOf division) (next.entriesOf division)
        (result.entriesOf division) path :=
  ⟨by decide, mergeOnto_override_laidOver _ ⟨_, by decide⟩⟩

end Tree

end ComponentAtlas
