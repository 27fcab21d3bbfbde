import ComponentAtlas.Proofs.MergePaths
import ComponentAtlas.Proofs.OverlayAssociativity
import ComponentAtlas.Proofs.Successions
import Mathlib.Data.List.Induction

/-!
# Grouping of sources

Merging starts with the empty tree, which adds nothing, so an initial group of sources may be merged
first. The strict policy allows any grouping into runs of neighbours: what a list merges to is what
its groups, merged one by one, merge to.
-/

namespace ComponentAtlas

/-- Nothing clashes with no entries at all. -/
theorem clashAmong?_nil (policy : MergePolicy) (next : Keyed Node) :
    clashAmong? policy [] next = none :=
  clashAmong?_eq_none.mpr fun _ _ _ hfind => nomatch hfind

/-- Entries laid over none are left as they are. -/
theorem overlayEntries_nil {next : Keyed Node} (hnext : next.Distinct) :
    overlayEntries [] next = next := by
  refine Keyed.ext_of_distinct (distinct_overlayEntries Keyed.distinct_nil next) ?_ fun name => ?_
  · simp [keys_overlayEntries _ hnext]
  · rw [find?_overlayEntries _ hnext]
    cases Keyed.find? next name <;> rfl

namespace MergePolicy

variable {policy : MergePolicy}

/-- The empty tree is a neutral start. -/
theorem mergeOnto_empty_left (tree : DistinctTree) : policy.mergeOnto .empty tree = .ok tree := by
  have hclash : Tree.empty.clash? policy tree = none := by
    simp only [Tree.clash?, Tree.empty, clashAmong?_nil, Option.map_none]
  have hoverlay : Tree.empty.overlay tree = tree := by
    simp only [Tree.overlay, Tree.empty, overlayEntries_nil tree.distinct.1.1,
      overlayEntries_nil tree.distinct.2.1]
  exact mergeOnto_eq_ok.mpr ⟨hclash, hoverlay⟩

/-- The empty tree adds nothing to another. -/
theorem mergeOnto_empty_right (tree : Tree) : policy.mergeOnto tree .empty = .ok tree := rfl

/-- What holds of every source and is kept by one merge holds of all that a list merges to. -/
theorem foldlM_invariant {p : Tree → Prop}
    (hstep : ∀ {base result : Tree} {next : DistinctTree}, p base → p next →
      policy.mergeOnto base next = .ok result → p result)
    {start result : Tree} {sources : List DistinctTree} (hstart : p start)
    (hsources : ∀ source ∈ sources, p source)
    (h : (trees sources).foldlM policy.mergeOnto start = .ok result) : p result := by
  induction sources generalizing start with
  | nil =>
    obtain rfl : start = result := Except.ok.inj h
    exact hstart
  | cons source rest ih =>
    obtain ⟨hsource, hrest⟩ := List.forall_mem_cons.mp hsources
    rw [trees_cons, List.foldlM_cons, bind_eq_ok] at h
    obtain ⟨first, hfirst, hothers⟩ := h
    exact ih (hstep hstart hsource hfirst) hrest hothers

/-- Distinct trees merge to a distinct tree. -/
theorem exists_distinct_of_merge {sources : List DistinctTree} {result : Tree}
    (h : policy.merge (trees sources) = .ok result) :
    ∃ merged : DistinctTree, merged.toTree = result := by
  refine foldlM_invariant (p := fun tree => ∃ merged : DistinctTree, merged.toTree = tree) ?_
    ⟨.empty, rfl⟩ (fun source _ => ⟨source, rfl⟩) h
  rintro _ result next ⟨base, rfl⟩ - hresult
  exact ⟨base.overlay next, (mergeOnto_eq_ok.mp hresult).2⟩

/-- The last source is merged last. -/
theorem foldlM_concat (start : Tree) (sources : List Tree) (last : Tree) :
    (sources ++ [last]).foldlM policy.mergeOnto start =
      sources.foldlM policy.mergeOnto start >>= fun before => policy.mergeOnto before last := by
  rw [List.foldlM_append]
  congr 1
  funext before
  rw [List.foldlM_cons]
  exact bind_pure _

/-- Three trees that the strict policy merges from the left can be merged from the right. -/
theorem mergeOnto_regroup {first second third : DistinctTree} {left result : Tree}
    (hleft : strict.mergeOnto first second = .ok left)
    (hresult : strict.mergeOnto left third = .ok result) :
    ∃ right, strict.mergeOnto second third = .ok right ∧
      strict.mergeOnto first right = .ok result := by
  obtain ⟨hclash, rfl⟩ := mergeOnto_eq_ok.mp hleft
  obtain ⟨hclash', rfl⟩ := mergeOnto_eq_ok.mp hresult
  have hregroups : ∀ division, RegroupsAmong (first.entriesOf division)
      (second.entriesOf division) (third.entriesOf division) := by
    intro division
    have hright := Tree.clash?_eq_none.mp hclash' division
    rw [Tree.entriesOf_overlay] at hright
    exact regroupsAmong (first.distinctAmong division) (second.distinctAmong division)
      (third.distinctAmong division) (Tree.clash?_eq_none.mp hclash division) hright
  have hlater : second.clash? strict third = none :=
    Tree.clash?_eq_none.mpr fun division => (hregroups division).later
  have hwhole : first.clash? strict (second.overlay third) = none := by
    refine Tree.clash?_eq_none.mpr fun division => ?_
    rw [DistinctTree.overlay, Tree.entriesOf_overlay]
    exact (hregroups division).whole
  refine ⟨second.overlay third, mergeOnto_eq_ok.mpr ⟨hlater, rfl⟩, ?_⟩
  refine mergeOnto_eq_ok.mpr ⟨hwhole, ?_⟩
  refine Tree.ext_entriesOf fun division => ?_
  simp only [DistinctTree.overlay, Tree.entriesOf_overlay, (hregroups division).equal]

/-- What the strict policy merges onto a tree one by one it can merge on its own and lay over the
tree at once. The induction takes the last source away, which is the one that is merged last in
both ways. -/
theorem merge_of_foldlM {start : DistinctTree} {result : Tree} {sources : List DistinctTree}
    (h : (trees sources).foldlM strict.mergeOnto start = .ok result) :
    ∃ merged, strict.merge (trees sources) = .ok merged ∧
      strict.mergeOnto start merged = .ok result := by
  induction sources using List.reverseRecOn generalizing result with
  | nil =>
    obtain rfl : start.toTree = result := Except.ok.inj h
    exact ⟨.empty, rfl, mergeOnto_empty_right start⟩
  | append_singleton sources last ih =>
    have hlist : trees (sources ++ [last]) = trees sources ++ [last.toTree] := trees_append _ _
    rw [hlist, foldlM_concat, bind_eq_ok] at h
    obtain ⟨before, hbefore, hlast⟩ := h
    obtain ⟨merged, hmerged, hwhole⟩ := ih hbefore
    obtain ⟨merged, rfl⟩ := exists_distinct_of_merge hmerged
    obtain ⟨right, hright, hresult⟩ := mergeOnto_regroup hwhole hlast
    refine ⟨right, ?_, hresult⟩
    rw [hlist, merge, foldlM_concat, bind_eq_ok]
    exact ⟨merged, hmerged, hright⟩

/-- Groups that the strict policy merges one after the other can be merged each on its own. -/
theorem merge_of_flatten {groups : List (List DistinctTree)} {result : Tree}
    (h : strict.merge (trees groups.flatten) = .ok result) :
    ∃ merged, groups.mapM (fun group => strict.merge (trees group)) = .ok merged ∧
      strict.merge merged = .ok result := by
  induction groups using List.reverseRecOn generalizing result with
  | nil => exact ⟨[], rfl, h⟩
  | append_singleton groups last ih =>
    rw [List.flatten_append, List.flatten_singleton, trees_append, merge, List.foldlM_append,
      bind_eq_ok] at h
    obtain ⟨before, hbefore, hlast⟩ := h
    obtain ⟨others, hothers, hmerged⟩ := ih hbefore
    obtain ⟨before, rfl⟩ := exists_distinct_of_merge hbefore
    obtain ⟨group, hgroup, hresult⟩ := merge_of_foldlM hlast
    refine ⟨others ++ [group], ?_, ?_⟩
    · rw [List.mapM_append, hothers, List.mapM_cons, hgroup]
      rfl
    · rw [merge, foldlM_concat, bind_eq_ok]
      exact ⟨before, hmerged, hresult⟩

/-- Under the overriding policy a leaf in the middle resets what came before it, so merging the
later sources first gives another tree. -/
theorem exists_override_regrouping_ne :
    ∃ (groups : List (List Tree)) (merged : List Tree) (whole grouped : Tree),
      override.merge groups.flatten = .ok whole ∧ groups.mapM override.merge = .ok merged ∧
      override.merge merged = .ok grouped ∧ grouped ≠ whole := by
  let button (node : Node) : Tree := { prototypes := [("Button", node)] }
  refine ⟨[[button (.object [("label", .scalar .null)])],
    [button (.scalar .null), button (.object [])]], _, _, _, rfl, rfl, rfl, ?_⟩
  simp [Keyed.insert, Tree.empty]

/-- Grouping of sources. Under either policy an initial group may be merged first: if it merges, its
result stands for it, and if it fails, the whole fails alike. What the strict policy merges it
merges in any grouping into runs of neighbours, with the same result; so three trees that it merges
from the left it merges from the right as well. The overriding policy does not allow this. -/
theorem merge_grouping :
    (∀ (policy : MergePolicy) (initial : List DistinctTree) (rest : List Tree) (merged : Tree),
      policy.merge (trees initial) = .ok merged →
      policy.merge ([merged] ++ rest) = policy.merge (trees initial ++ rest)) ∧
    (∀ (policy : MergePolicy) (initial rest : List Tree) (fault : Fault),
      policy.merge initial = .error fault → policy.merge (initial ++ rest) = .error fault) ∧
    (∀ (groups : List (List DistinctTree)) (result : Tree),
      strict.merge (trees groups.flatten) = .ok result →
      ∃ merged, groups.mapM (fun group => strict.merge (trees group)) = .ok merged ∧
        strict.merge merged = .ok result) ∧
    (∀ (first second third : DistinctTree) (left result : Tree),
      strict.mergeOnto first second = .ok left → strict.mergeOnto left third = .ok result →
      ∃ right, strict.mergeOnto second third = .ok right ∧
        strict.mergeOnto first right = .ok result) ∧
    (∃ (groups : List (List Tree)) (merged : List Tree) (whole grouped : Tree),
      override.merge groups.flatten = .ok whole ∧ groups.mapM override.merge = .ok merged ∧
      override.merge merged = .ok grouped ∧ grouped ≠ whole) := by
  refine ⟨fun policy initial rest merged h => ?_, fun policy initial rest fault h => ?_,
    fun groups result => merge_of_flatten, fun _ _ _ _ _ => mergeOnto_regroup,
    exists_override_regrouping_ne⟩
  · obtain ⟨merged, rfl⟩ := exists_distinct_of_merge h
    have hstart : policy.mergeOnto .empty merged = .ok merged.toTree := mergeOnto_empty_left merged
    rw [merge] at h
    rw [merge, merge, List.foldlM_append, List.foldlM_append, h, List.foldlM_cons, hstart]
    rfl
  · rw [merge] at h
    rw [merge, List.foldlM_append, h]
    rfl

/-- A reference, an object that extends it and a reference that replaces it, grouped in all the
ways that the theorem speaks of, and a leaf that the strict policy refuses. -/
theorem merge_grouping_of_references :
    let page (node : Node) : Tree := { prototypes := [("Page", .object [("body", node)])] }
    let card := page (.reference "Card" [("size", .scalar .null)])
    let wider := page (.object [("width", .expression "props.width")])
    let text := page (.reference "Text" [])
    let leaf := page (.scalar .null)
    let extended := page
      (.reference "Card" [("size", .scalar .null), ("width", .expression "props.width")])
    let refused := Fault.mergeConflict ⟨.prototype "Page", ["body"]⟩ .reference .scalar
    strict.merge ([extended] ++ [text]) = strict.merge ([card, wider] ++ [text]) ∧
      strict.merge ([card, leaf] ++ [text]) = .error refused ∧
      (∃ merged, [[card], [], [wider, text]].mapM strict.merge = .ok merged ∧
        strict.merge merged = .ok text) ∧
      ∃ right, strict.mergeOnto wider text = .ok right ∧ strict.mergeOnto card right = .ok text :=
  ⟨merge_grouping.1 strict [⟨_, by decide⟩, ⟨_, by decide⟩] _ _ rfl,
    merge_grouping.2.1 strict _ _ _ rfl,
    merge_grouping.2.2.1 [[⟨_, by decide⟩], [], [⟨_, by decide⟩, ⟨_, by decide⟩]] _ rfl,
    merge_grouping.2.2.2.1 ⟨_, by decide⟩ ⟨_, by decide⟩ ⟨_, by decide⟩ _ _ rfl rfl⟩

end MergePolicy

end ComponentAtlas
