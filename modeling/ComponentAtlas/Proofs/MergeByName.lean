import ComponentAtlas.Proofs.MergeGrouping
import Mathlib.Data.List.FinRange

/-!
# Merging name by name

A merge treats every name at the top of a tree on its own: restricting two trees to one name and
merging them gives the part of their merge under this name, and two trees clash exactly when their
parts under some name do. A list of sources can therefore be merged by merging what it says about
each name, and the order of two sources counts only when they have a name in common.
-/

namespace ComponentAtlas

namespace Keyed

variable {α : Type}

/-- What a keyed list holds under one name, and nothing else. -/
def only (entries : Keyed α) (name : String) : Keyed α :=
  match entries.find? name with
  | some value => [(name, value)]
  | none => []

/-- What is held under the one name is what was held under it before. -/
theorem find?_only (entries : Keyed α) (name : String) :
    (entries.only name).find? name = entries.find? name := by
  unfold only
  cases entries.find? name <;> simp

/-- Nothing is left under a name that is not there. -/
theorem only_eq_nil {entries : Keyed α} {name : String} (h : name ∉ entries.keys) :
    entries.only name = [] := by
  rw [only, find?_eq_none.mpr h]

end Keyed

section Only

variable {base next : Keyed Node} {name : String}

/-- No name repeats at any level of what is held under one name. -/
theorem DistinctKeysAmong.only {entries : Keyed Node} (h : DistinctKeysAmong entries)
    (name : String) : DistinctKeysAmong (entries.only name) := by
  unfold Keyed.only
  cases hfind : entries.find? name with
  | none => exact distinctKeysAmong_nil
  | some node =>
    exact ⟨Keyed.distinct_cons.mpr ⟨List.not_mem_nil, Keyed.distinct_nil⟩, h.node hfind, trivial⟩

/-- What an overlay holds under a name is the overlay of what the two sides hold under it. -/
theorem only_overlayEntries (hnext : next.Distinct) :
    (overlayEntries base next).only name = overlayEntries (base.only name) (next.only name) := by
  simp only [Keyed.only, find?_overlayEntries base hnext]
  cases base.find? name <;> cases next.find? name <;>
    simp [Option.merge, overlayEntries, Keyed.insert]

/-- Entries clash exactly when those of some one name do. -/
theorem clashAmong?_only_eq_none {policy : MergePolicy} (hnext : next.Distinct) :
    (∀ name, clashAmong? policy (base.only name) (next.only name) = none) ↔
      clashAmong? policy base next = none := by
  constructor
  · intro h
    refine clashAmong?_eq_none_of_find? hnext fun name existing incoming hbase hincoming => ?_
    exact clash?_of_find? (h name) (by rwa [Keyed.find?_only]) (by rwa [Keyed.find?_only])
  · intro h name
    refine clashAmong?_eq_none.mpr fun entry hentry existing hexisting => ?_
    cases hincoming : next.find? name with
    | none =>
      rw [Keyed.only, hincoming] at hentry
      cases hentry
    | some incoming =>
      rw [Keyed.only, hincoming] at hentry
      obtain rfl := List.mem_singleton.mp hentry
      rw [Keyed.find?_only] at hexisting
      exact clash?_of_find? h hexisting hincoming

end Only

namespace Tree

/-- What a tree says about one name of a path or of a prototype, and nothing else. -/
def only (tree : Tree) : Division → String → Tree
  | .paths, name => { paths := tree.paths.only name }
  | .prototypes, name => { prototypes := tree.prototypes.only name }

/-- A tree says about a name what its entries hold under it. -/
theorem entriesOf_only (tree : Tree) (division : Division) (name : String) :
    (tree.only division name).entriesOf division = (tree.entriesOf division).only name := by
  cases division <;> rfl

/-- What a tree says about a name of one division has nothing in the other. -/
theorem entriesOf_only_of_ne (tree : Tree) {division other : Division} (h : other ≠ division)
    (name : String) : (tree.only division name).entriesOf other = [] := by
  cases division <;> cases other <;> first | rfl | exact absurd rfl h

/-- The empty tree says nothing about any name. -/
theorem only_empty (division : Division) (name : String) : empty.only division name = empty := by
  cases division <;> rfl

/-- A tree that does not have a name says nothing about it. -/
theorem only_eq_empty {tree : Tree} {division : Division} {name : String}
    (h : name ∉ (tree.entriesOf division).keys) : tree.only division name = empty := by
  refine ext_entriesOf fun other => ?_
  by_cases hother : other = division
  · rw [hother, entriesOf_only, Keyed.only_eq_nil h]
    cases division <;> rfl
  · rw [entriesOf_only_of_ne tree hother]
    cases other <;> rfl

end Tree

/-- What a distinct tree says about one name of a path or of a prototype, and nothing else. -/
def DistinctTree.only (tree : DistinctTree) (division : Division) (name : String) :
    DistinctTree where
  toTree := tree.toTree.only division name
  distinct := by
    cases division with
    | paths => exact ⟨tree.distinct.1.only name, distinctKeysAmong_nil⟩
    | prototypes => exact ⟨distinctKeysAmong_nil, tree.distinct.2.only name⟩

namespace Tree

/-- What an overlay says about a name is the overlay of what the two trees say about it. -/
theorem only_overlay (base : Tree) (next : DistinctTree) (division : Division) (name : String) :
    (base.overlay next).only division name =
      (base.only division name).overlay (next.toTree.only division name) := by
  refine ext_entriesOf fun other => ?_
  by_cases hother : other = division
  · subst hother
    simp only [entriesOf_overlay, entriesOf_only, only_overlayEntries (next.distinctAmong other).1]
  · simp only [entriesOf_overlay, entriesOf_only_of_ne _ hother, overlayEntries]

/-- Two trees clash exactly when what they say about some one name does. -/
theorem clash?_only_eq_none {policy : MergePolicy} {base : Tree} {next : DistinctTree} :
    (∀ division name,
      (base.only division name).clash? policy (next.toTree.only division name) = none) ↔
        base.clash? policy next = none := by
  have hpart : ∀ division name,
      (base.only division name).clash? policy (next.toTree.only division name) = none ↔
        clashAmong? policy ((base.entriesOf division).only name)
          ((next.entriesOf division).only name) = none := by
    intro division name
    rw [clash?_eq_none, ← entriesOf_only, ← entriesOf_only]
    refine ⟨fun h => h division, fun h other => ?_⟩
    by_cases hother : other = division
    · rwa [hother]
    · rw [entriesOf_only_of_ne base hother, entriesOf_only_of_ne _ hother, clashAmong?]
  simp only [hpart, clash?_eq_none, clashAmong?_only_eq_none (next.distinctAmong _).1]

end Tree

namespace MergePolicy

variable {policy : MergePolicy}

/-- Merging two trees merges what they say about each name. -/
theorem mergeOnto_only {base result : Tree} {next : DistinctTree}
    (h : policy.mergeOnto base next = .ok result) (division : Division) (name : String) :
    policy.mergeOnto (base.only division name) (next.toTree.only division name) =
      .ok (result.only division name) := by
  obtain ⟨hclash, rfl⟩ := mergeOnto_eq_ok.mp h
  have hpart := Tree.clash?_only_eq_none.mpr hclash division name
  exact (@mergeOnto_eq_ok policy _ _ (next.only division name)).mpr
    ⟨hpart, (base.only_overlay next division name).symm⟩

/-- Two trees merge when what they say about each name does. -/
theorem exists_mergeOnto_of_only {base : Tree} {next : DistinctTree}
    (h : ∀ division name, ∃ part,
      policy.mergeOnto (base.only division name) (next.toTree.only division name) = .ok part) :
    ∃ result, policy.mergeOnto base next = .ok result := by
  refine ⟨base.overlay next, mergeOnto_eq_ok.mpr ⟨?_, rfl⟩⟩
  refine Tree.clash?_only_eq_none.mp fun division name => ?_
  obtain ⟨part, hpart⟩ := h division name
  exact ((@mergeOnto_eq_ok policy _ _ (next.only division name)).mp hpart).1

section Run

variable {start : Tree} {sources : List DistinctTree}

/-- Merging sources onto a tree merges what they say about each name. -/
theorem foldlM_only {result : Tree} (h : (trees sources).foldlM policy.mergeOnto start = .ok result)
    (division : Division) (name : String) :
    ((trees sources).map (·.only division name)).foldlM policy.mergeOnto
        (start.only division name) = .ok (result.only division name) := by
  induction sources generalizing start with
  | nil =>
    obtain rfl : start = result := Except.ok.inj h
    rfl
  | cons source rest ih =>
    rw [trees_cons, List.foldlM_cons, bind_eq_ok] at h
    obtain ⟨first, hfirst, hothers⟩ := h
    rw [trees_cons, List.map_cons, List.foldlM_cons, mergeOnto_only hfirst division name]
    exact ih hothers

/-- Sources can be merged onto a tree when what they say about each name can. -/
theorem exists_foldlM_of_only (h : ∀ division name, ∃ part,
    ((trees sources).map (·.only division name)).foldlM policy.mergeOnto
      (start.only division name) = .ok part) :
    ∃ result, (trees sources).foldlM policy.mergeOnto start = .ok result := by
  induction sources generalizing start with
  | nil => exact ⟨start, rfl⟩
  | cons source rest ih =>
    simp only [trees_cons, List.map_cons, List.foldlM_cons, bind_eq_ok] at h
    obtain ⟨first, hfirst⟩ := exists_mergeOnto_of_only fun division name => by
      obtain ⟨part, value, hvalue, _⟩ := h division name
      exact ⟨value, hvalue⟩
    obtain ⟨result, hresult⟩ := ih fun division name => by
      obtain ⟨part, value, hvalue, hpart⟩ := h division name
      rw [mergeOnto_only hfirst division name] at hvalue
      obtain rfl := Except.ok.inj hvalue
      exact ⟨part, hpart⟩
    exact ⟨result, by rw [trees_cons, List.foldlM_cons, hfirst]; exact hresult⟩

/-- Merging sources onto a tree appends the names that are new in the order in which they first
appear. -/
theorem keys_foldlM {result : Tree} (h : (trees sources).foldlM policy.mergeOnto start = .ok result)
    (division : Division) :
    (result.entriesOf division).keys = (start.entriesOf division).keys ++
      (distinct ((trees sources).flatMap fun source => (source.entriesOf division).keys)).filter
        (· ∉ (start.entriesOf division).keys) := by
  induction sources generalizing start with
  | nil =>
    obtain rfl : start = result := Except.ok.inj h
    simp [distinct]
  | cons source rest ih =>
    rw [trees_cons, List.foldlM_cons, bind_eq_ok] at h
    obtain ⟨first, hfirst, hothers⟩ := h
    obtain ⟨_, rfl⟩ := mergeOnto_eq_ok.mp hfirst
    have hnames := (source.distinctAmong division).1
    rw [ih hothers, Tree.entriesOf_overlay, keys_overlayEntries _ hnames, trees_cons,
      List.flatMap_cons, distinct_append, distinct_of_nodup hnames, append_filter_append]

end Run

/-- Sources that do not have a name do not count for it. -/
theorem foldlM_only_filter (start : Tree) (sources : List Tree) (division : Division)
    (name : String) :
    ((sources.filter fun source => name ∈ (source.entriesOf division).keys).map
        (·.only division name)).foldlM policy.mergeOnto start =
      (sources.map (·.only division name)).foldlM policy.mergeOnto start := by
  induction sources generalizing start with
  | nil => rfl
  | cons source rest ih =>
    by_cases hname : name ∈ (source.entriesOf division).keys
    · rw [List.filter_cons_of_pos (by simpa using hname), List.map_cons, List.map_cons,
        List.foldlM_cons, List.foldlM_cons]
      simp only [ih]
    · have hskip : policy.mergeOnto start (source.only division name) = .ok start := by
        rw [Tree.only_eq_empty hname, mergeOnto_empty_right]
      rw [List.filter_cons_of_neg (by simpa using hname), List.map_cons, List.foldlM_cons, hskip,
        ih]
      rfl

end MergePolicy

/-- Whether two trees both have some path or both have some prototype. -/
def Tree.SharesName (left right : Tree) : Prop :=
  ∃ division name, name ∈ (left.entriesOf division).keys ∧ name ∈ (right.entriesOf division).keys

/-- Whether a list consists of given sources in an order in which any two that share a name stand as
they do in the given list. -/
def IsReordering (sources reordered : List Tree) : Prop :=
  ∃ order : List (Fin sources.length), order.Perm (List.finRange sources.length) ∧
    reordered = order.map sources.get ∧
    order.Pairwise fun i j => (sources.get i).SharesName (sources.get j) → i < j

namespace IsReordering

variable {sources reordered : List Tree} (h : IsReordering sources reordered)

include h

/-- A reordering has no other sources than the given ones. -/
theorem mem_of_mem {source : Tree} (hsource : source ∈ reordered) : source ∈ sources := by
  obtain ⟨order, -, rfl, -⟩ := h
  obtain ⟨i, -, rfl⟩ := List.mem_map.mp hsource
  exact List.get_mem sources i

/-- A reordering keeps the order of the sources that have a given name. Their places in the given
list are ascending in both orders, because any two of them share the name. -/
theorem filter_eq (division : Division) (name : String) :
    reordered.filter (fun source => name ∈ (source.entriesOf division).keys) =
      sources.filter fun source => name ∈ (source.entriesOf division).keys := by
  obtain ⟨order, hperm, rfl, horder⟩ := h
  let hasName (source : Tree) : Bool := decide (name ∈ (source.entriesOf division).keys)
  have hascending : (order.filter (hasName ∘ sources.get)).Pairwise (· < ·) := by
    refine List.pairwise_filter.mpr (horder.imp fun hij hi hj => ?_)
    exact hij ⟨division, name, of_decide_eq_true hi, of_decide_eq_true hj⟩
  have hall : ((List.finRange sources.length).filter (hasName ∘ sources.get)).Pairwise (· < ·) :=
    (List.pairwise_lt_finRange _).filter _
  have hplaces : order.filter (hasName ∘ sources.get) =
      (List.finRange sources.length).filter (hasName ∘ sources.get) :=
    (hperm.filter _).eq_of_pairwise (fun _ _ _ _ hij hji => absurd hji (Nat.lt_asymm hij))
      hascending hall
  change (order.map sources.get).filter hasName = sources.filter hasName
  rw [List.filter_map, hplaces, ← List.filter_map, List.map_get_finRange]

end IsReordering

namespace MergePolicy

variable {policy : MergePolicy}

/-- A reordering of sources says the same about each name. -/
theorem merge_only_of_reordering {sources reordered : List Tree}
    (h : IsReordering sources reordered) (division : Division) (name : String) :
    policy.merge (reordered.map (·.only division name)) =
      policy.merge (sources.map (·.only division name)) := by
  rw [merge, merge, ← foldlM_only_filter _ reordered, h.filter_eq, foldlM_only_filter]

/-- What distinct trees merge to says about each name what they merge to on this name. -/
theorem merge_only {sources : List DistinctTree} {merged : Tree}
    (h : policy.merge (trees sources) = .ok merged) (division : Division) (name : String) :
    policy.merge ((trees sources).map (·.only division name)) = .ok (merged.only division name) := by
  have hpart := foldlM_only h division name
  rwa [Tree.only_empty] at hpart

/-- Distinct trees merge exactly when what they say about each name does. -/
theorem exists_merge_iff {sources : List DistinctTree} :
    (∃ merged, policy.merge (trees sources) = .ok merged) ↔ ∀ division name, ∃ part,
      policy.merge ((trees sources).map (·.only division name)) = .ok part := by
  constructor
  · rintro ⟨merged, h⟩ division name
    exact ⟨_, merge_only h division name⟩
  · intro h
    exact exists_foldlM_of_only fun division name => by
      rw [Tree.only_empty]
      exact h division name

/-- Merging works name by name. A list of sources merges exactly when what it says about each name
of a path or prototype does; the merge then holds under each name what these parts merge to, and its
names stand in the order of their first appearance. So the order of two sources that share no name
does not count: any reordering that keeps the others in order merges as well or fails as well, and
gives the same node under every name. -/
theorem merge_by_name (policy : MergePolicy) (sources : List DistinctTree) :
    ((∃ merged, policy.merge (trees sources) = .ok merged) ↔ ∀ division name, ∃ part,
      policy.merge ((trees sources).map (·.only division name)) = .ok part) ∧
    (∀ merged, policy.merge (trees sources) = .ok merged →
      (∀ division name, ∃ part,
        policy.merge ((trees sources).map (·.only division name)) = .ok part ∧
        (merged.entriesOf division).find? name = (part.entriesOf division).find? name) ∧
      ∀ division, (merged.entriesOf division).keys =
        ((trees sources).flatMap fun source => (source.entriesOf division).keys).eraseDups) ∧
    ∀ reordered, IsReordering (trees sources) reordered →
      ((∃ other, policy.merge reordered = .ok other) ↔
        ∃ merged, policy.merge (trees sources) = .ok merged) ∧
      ∀ merged other, policy.merge (trees sources) = .ok merged →
        policy.merge reordered = .ok other → ∀ division name,
          (other.entriesOf division).find? name = (merged.entriesOf division).find? name := by
  refine ⟨exists_merge_iff, fun merged h => ⟨fun division name => ?_, fun division => ?_⟩,
    fun reordered hreordered => ?_⟩
  · refine ⟨_, merge_only h division name, ?_⟩
    rw [Tree.entriesOf_only, Keyed.find?_only]
  · have hkeys := keys_foldlM h division
    have hempty : (Tree.empty.entriesOf division).keys = [] := by cases division <;> rfl
    simpa [hempty, distinct_eq_eraseDups] using hkeys
  · obtain ⟨others, rfl⟩ := exists_trees fun tree htree =>
      distinctKeys_of_mem_trees (hreordered.mem_of_mem htree)
    constructor
    · simp only [exists_merge_iff, merge_only_of_reordering hreordered]
    · intro merged other hmerged hother division name
      have hparts : other.only division name = merged.only division name := by
        have hpart := merge_only hother division name
        rw [merge_only_of_reordering hreordered, merge_only hmerged] at hpart
        exact (Except.ok.inj hpart).symm
      rw [← Keyed.find?_only, ← Tree.entriesOf_only, hparts, Tree.entriesOf_only, Keyed.find?_only]

/-- A page that a later source extends, and between the two a card with a path that has the name of
the page. The card may as well come first, and its prototype then does. -/
theorem merge_by_name_of_page :
    let page (properties : Keyed Node) : Tree := { prototypes := [("Page", .object properties)] }
    let base := page [("title", .scalar .null)]
    let card : Tree :=
      { paths := [("Page", .reference "Page" [])], prototypes := [("Card", .object [])] }
    let site := page [("title", .expression "props.title"), ("icon", .reference "Icon" [])]
    let merged : Tree := { paths := card.paths, prototypes := site.prototypes ++ card.prototypes }
    let other : Tree := { paths := card.paths, prototypes := card.prototypes ++ site.prototypes }
    ((∀ source ∈ [base, card, site], source.DistinctKeys) ∧
      strict.merge [base, card, site] = .ok merged ∧
      IsReordering [base, card, site] [card, base, site] ∧
      strict.merge [card, base, site] = .ok other) ∧
    (∀ division name, ∃ part,
      strict.merge ([base, card, site].map (·.only division name)) = .ok part ∧
      (merged.entriesOf division).find? name = (part.entriesOf division).find? name) ∧
    merged.prototypes.keys = ["Page", "Card", "Page"].eraseDups ∧
    ∀ division name,
      (other.entriesOf division).find? name = (merged.entriesOf division).find? name := by
  intro page base card site merged other
  have hsources : ∀ source ∈ [base, card, site], source.DistinctKeys := by decide
  have hmerged : strict.merge [base, card, site] = .ok merged := rfl
  have hother : strict.merge [card, base, site] = .ok other := rfl
  have hapart : ¬card.SharesName base := by
    rintro ⟨division, name, hcard, hbase⟩
    cases division with
    | paths => cases hbase
    | prototypes => simp_all [card, base, page, Tree.entriesOf]
  have hreordering : IsReordering [base, card, site] [card, base, site] := by
    refine ⟨[1, 0, 2], by decide, rfl, ?_⟩
    simp only [List.pairwise_cons, List.forall_mem_cons]
    refine ⟨⟨fun hshares => absurd hshares hapart, fun _ => by decide, by simp⟩, ?_, by simp⟩
    exact ⟨fun _ => by decide, by simp⟩
  obtain ⟨_, hparts, hreorder⟩ := merge_by_name strict
    [⟨base, by decide⟩, ⟨card, by decide⟩, ⟨site, by decide⟩]
  obtain ⟨hpart, hkeys⟩ := hparts merged hmerged
  exact ⟨⟨hsources, hmerged, hreordering, hother⟩, hpart, hkeys .prototypes,
    (hreorder _ hreordering).2 merged other hmerged hother⟩

end MergePolicy

end ComponentAtlas
