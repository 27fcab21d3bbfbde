import ComponentAtlas.Proofs.CompositionReach
import Mathlib.Algebra.BigOperators.Group.Finset.Basic

/-!
# Complete compositions

The names on the way down to a position are expanded and differ from each other, so no position lies
deeper than there are prototypes. With a budget of that many levels the outline stops nowhere: it
expands exactly what can be reached, each prototype once, and its size is the number of parts of
these prototypes and one.
-/

namespace ComponentAtlas

open ComponentAtlas.Composition (expandedNames expandedNames_append mem_expandedNames
  mem_positions_part enclosed partTotal size_eq)

/-- Whether a chain of prototypes, each a part of the one before, leads from one name to another. -/
def Tree.Reaches (tree : Tree) : String → String → Prop :=
  Relation.ReflTransGen tree.Composes

open Classical in
/-- The prototypes of the tree that can be reached from a name. -/
noncomputable def Tree.reachable (tree : Tree) (name : String) : Finset String :=
  tree.prototypeNames.toFinset.filter (tree.Reaches name)

/-- The number of parts of a prototype. -/
def Tree.partCount (tree : Tree) (name : String) : Nat :=
  ((tree.prototypes.find? name).map fun node => node.anatomy.parts.length).getD 0

section

variable {tree : Tree} {name : String} {maxDepth : Nat} {root : Composition}

/-- A prototype can be reached when it is in the tree and compositions lead to it. -/
theorem Tree.mem_reachable {shown : String} :
    shown ∈ tree.reachable name ↔ shown ∈ tree.prototypeNames ∧ tree.Reaches name shown := by
  simp only [reachable, Finset.mem_filter, List.mem_toFinset]

/-- The parts at an expanded position are as many as its prototype has, and elsewhere there are
none. So positions that expand no name twice have the parts of the names they expand. -/
theorem Tree.partTotal_eq {places : List (Nat × Composition)}
    (hshows : ∀ place ∈ places, tree.Shows place.2) (hnodup : (expandedNames places).Nodup) :
    partTotal places = ∑ shown ∈ (expandedNames places).toFinset, tree.partCount shown := by
  induction places with
  | nil => rfl
  | cons place rest ih =>
    obtain ⟨hplace, hrest⟩ := List.forall_mem_cons.mp hshows
    have hnames := expandedNames_append [place] rest
    rw [List.singleton_append] at hnames
    rw [partTotal]
    by_cases hexpanded : place.2.status = .expanded
    · have hone : expandedNames [place] = [place.2.prototype] := by
        simp [expandedNames, hexpanded]
      rw [hone, List.singleton_append] at hnames
      rw [hnames] at hnodup ⊢
      obtain ⟨hnew, hothers⟩ := List.nodup_cons.mp hnodup
      obtain ⟨node, hfind, hparts⟩ := hplace.map_parts hexpanded
      have hcount : place.2.parts.length = tree.partCount place.2.prototype := by
        have hlength := congrArg List.length hparts
        simp only [List.length_map] at hlength
        simp [partCount, hfind, hlength]
      rw [List.toFinset_cons, Finset.sum_insert (by simpa using hnew), ih hrest hothers, hcount]
    · have hnone : expandedNames [place] = [] := by
        simp [expandedNames, hexpanded]
      rw [hnone, List.nil_append] at hnames
      rw [hnames] at hnodup ⊢
      rw [ih hrest hnodup, (hplace.2 hexpanded).1, List.length_nil, Nat.zero_add]

namespace Tree.Resolves

/-- No prototype is expanded twice. -/
theorem expandedNames_nodup (h : tree.Resolves name maxDepth root) :
    (expandedNames (root.positions 0)).Nodup := by
  have hnodup := h.marked.nodup List.nodup_nil
  rw [List.append_nil] at hnodup
  exact List.nodup_reverse.mp hnodup

/-- Every position shows the anatomy of its prototype if it is expanded, and nothing otherwise. -/
theorem shows (h : tree.Resolves name maxDepth root) {place : Nat × Composition}
    (hplace : place ∈ root.positions 0) : tree.Shows place.2 := by
  obtain ⟨_, _, _, hmarked⟩ := h.markedAfter hplace
  exact hmarked.shows

/-- Before a position as many names are expanded as lie above it. -/
theorem depth_le_expandedNames (h : tree.Resolves name maxDepth root) {depth : Nat}
    {here : Composition} {before after : List (Nat × Composition)}
    (hsplit : root.positions 0 = before ++ (depth, here) :: after) :
    depth ≤ (expandedNames before).length := by
  induction depth generalizing here before after with
  | zero => exact Nat.zero_le _
  | succ depth ih =>
    rcases enclosed hsplit with ⟨hroot, _⟩ | ⟨level, above, habove, hlevel, hpart⟩
    · cases hroot
    · obtain rfl : depth = level := by omega
      obtain ⟨earlier, between, rfl⟩ := List.append_of_mem habove
      rw [List.append_assoc] at hsplit
      have hdepth := ih hsplit
      have hlisted : (depth, above) ∈ root.positions 0 := by
        rw [hsplit]
        exact List.mem_append_right _ List.mem_cons_self
      have hexpanded := (h.composes_of_mem_parts hlisted hpart).1
      have hone : (expandedNames [(depth, above)]).length = 1 := by
        simp [expandedNames, hexpanded]
      rw [← List.singleton_append, expandedNames_append, expandedNames_append, List.length_append,
        List.length_append, hone]
      omega

/-- Only prototypes of the tree are expanded. -/
theorem expandedNames_subset (h : tree.Resolves name maxDepth root) :
    expandedNames (root.positions 0) ⊆ tree.prototypeNames := by
  intro shown hshown
  obtain ⟨⟨depth, here⟩, hhere, hexpanded, rfl⟩ := mem_expandedNames.mp hshown
  obtain ⟨_, _, _, hmarked⟩ := h.markedAfter hhere
  exact (hmarked.expanded_iff.mp hexpanded).1

/-- No position lies deeper than there are prototypes. -/
theorem depth_le_prototypes (h : tree.Resolves name maxDepth root) {depth : Nat}
    {here : Composition} (hhere : (depth, here) ∈ root.positions 0) :
    depth ≤ tree.prototypes.length := by
  obtain ⟨before, after, hsplit⟩ := List.append_of_mem hhere
  have hbefore : expandedNames before ⊆ expandedNames (root.positions 0) := by
    rw [hsplit, expandedNames_append]
    exact List.subset_append_left _ _
  have hnodup : (expandedNames before).Nodup := by
    have hall := h.expandedNames_nodup
    rw [hsplit, expandedNames_append] at hall
    exact hall.of_append_left
  have hnames := (hnodup.subperm (List.Subset.trans hbefore h.expandedNames_subset)).length_le
  rw [prototypeNames, Keyed.keys, List.length_map] at hnames
  exact (h.depth_le_expandedNames hsplit).trans hnames

/-- Every name in the outline can be reached. -/
theorem reaches (h : tree.Resolves name maxDepth root) {depth : Nat} {here : Composition}
    (hhere : (depth, here) ∈ root.positions 0) : tree.Reaches name here.prototype := by
  obtain ⟨steps, _, hchain, hend⟩ := h.exists_chain hhere
  refine List.relationReflTransGen_of_exists_isChain_cons steps hchain ?_
  rw [List.getLast_eq_getLastD, hend]

variable (hdepth : tree.prototypes.length ≤ maxDepth)

include hdepth

/-- The depth limit is not met when it is at least the number of prototypes. -/
theorem status_ne_depthLimit (h : tree.Resolves name maxDepth root) {place : Nat × Composition}
    (hplace : place ∈ root.positions 0) : place.2.status ≠ .depthLimit := by
  intro hlimit
  obtain ⟨_, _, _, hmarked⟩ := h.markedAfter hplace
  have hbeyond := (hmarked.depthLimit_iff.mp hlimit).2
  have hwithin := h.depth_le_prototypes hplace
  omega

/-- What is expanded is what the tree has and can be reached. -/
theorem mem_expandedNames_iff (h : tree.Resolves name maxDepth root) {shown : String} :
    shown ∈ expandedNames (root.positions 0) ↔ shown ∈ tree.reachable name := by
  rw [mem_reachable]
  constructor
  · intro hshown
    refine ⟨h.expandedNames_subset hshown, ?_⟩
    obtain ⟨⟨depth, here⟩, hhere, _, rfl⟩ := mem_expandedNames.mp hshown
    exact h.reaches hhere
  · rintro ⟨hmem, hreaches⟩
    obtain ⟨steps, hchain, hend⟩ := List.exists_isChain_cons_of_relationReflTransGen hreaches
    rw [List.getLast_eq_getLastD] at hend
    rw [← hend] at hmem ⊢
    rcases h.mem_expandedNames_or_stopsOn h.mem_expandedNames_root hchain hmem with
      hreached | ⟨_, _, _, _, _, here, hhere, _, _, beyond, hbeyond, _, hlimit⟩
    · exact hreached
    · exact absurd hlimit (h.status_ne_depthLimit hdepth (mem_positions_part hhere hbeyond))

/-- What is unresolved is what the tree lacks and some reachable prototype has as a part. -/
theorem exists_unresolved_iff (h : tree.Resolves name maxDepth root) {missing : String} :
    (∃ place ∈ root.positions 0, place.2.status = .unresolved ∧ place.2.prototype = missing) ↔
      missing ∉ tree.prototypeNames ∧
        ∃ whole ∈ tree.reachable name, tree.Composes whole missing := by
  constructor
  · rintro ⟨⟨depth, here⟩, hhere, hunresolved, rfl⟩
    obtain ⟨before, after, hsplit, hmarked⟩ := h.markedAfter hhere
    refine ⟨hmarked.unresolved_iff.mp hunresolved, ?_⟩
    rcases enclosed hsplit with ⟨_, rfl⟩ | ⟨level, above, habove, _, hpart⟩
    · rw [h.expanded] at hunresolved
      cases hunresolved
    · have hlisted : (level, above) ∈ root.positions 0 := hsplit ▸ List.mem_append_left _ habove
      obtain ⟨_, hcomposes⟩ := h.composes_of_mem_parts hlisted hpart
      have hreachable := mem_reachable.mpr ⟨hcomposes.mem_prototypeNames, h.reaches hlisted⟩
      exact ⟨above.prototype, hreachable, hcomposes⟩
  · rintro ⟨hmissing, whole, hwhole, hcomposes⟩
    rw [← h.mem_expandedNames_iff hdepth] at hwhole
    obtain ⟨⟨depth, here⟩, hhere, hexpanded, rfl⟩ := mem_expandedNames.mp hwhole
    obtain ⟨part, hpart, rfl⟩ := ((h.shows hhere).composes_iff hexpanded).mp hcomposes
    have hlisted := mem_positions_part hhere hpart
    obtain ⟨_, _, _, hmarked⟩ := h.markedAfter hlisted
    exact ⟨(depth + 1, part), hlisted, hmarked.unresolved_iff.mpr hmissing, rfl⟩

/-- There is one position more than the reachable prototypes have parts. -/
theorem size_eq_sum (h : tree.Resolves name maxDepth root) :
    root.size = 1 + ∑ shown ∈ tree.reachable name, tree.partCount shown := by
  have hnames : tree.reachable name = (expandedNames (root.positions 0)).toFinset := by
    ext shown
    rw [List.mem_toFinset, h.mem_expandedNames_iff hdepth]
  rw [size_eq root 0, partTotal_eq (fun _ => h.shows) h.expandedNames_nodup, hnames]

end Tree.Resolves

/-- With a budget of as many levels as there are prototypes, no position lies beyond it; what is
expanded is what can be reached, each prototype once; what is unresolved are the missing parts of
these prototypes; and the size of the outline is the number of their parts and one. -/
theorem Tree.resolve_complete (tree : Tree) {name : String} (hname : name ∈ tree.prototypeNames)
    {maxDepth : Nat} (hdepth : tree.prototypes.length ≤ maxDepth) :
    ∃ root, tree.resolve name maxDepth = .ok root ∧
      (∀ place ∈ root.positions 0, place.2.status ≠ .depthLimit) ∧
      (∀ shown, shown ∈ expandedNames (root.positions 0) ↔ shown ∈ tree.reachable name) ∧
      (expandedNames (root.positions 0)).Nodup ∧
      (∀ missing, (∃ place ∈ root.positions 0,
          place.2.status = .unresolved ∧ place.2.prototype = missing) ↔
        missing ∉ tree.prototypeNames ∧
          ∃ whole ∈ tree.reachable name, tree.Composes whole missing) ∧
      root.size = 1 + ∑ shown ∈ tree.reachable name, tree.partCount shown := by
  obtain ⟨root, hok, h⟩ := exists_resolves hname maxDepth
  exact ⟨root, hok, fun _ => h.status_ne_depthLimit hdepth, fun _ => h.mem_expandedNames_iff hdepth,
    h.expandedNames_nodup, fun _ => h.exists_unresolved_iff hdepth, h.size_eq_sum hdepth⟩

/-- Two prototypes that refer to each other, one of them also to a missing one. -/
theorem Tree.resolve_complete_of_circle :
    let tree : Tree :=
      { prototypes := [("Page", .object [("menu", .reference "Menu" [])]),
          ("Menu", .object [("page", .reference "Page" []), ("icon", .reference "Icon" [])])] }
    "Page" ∈ tree.prototypeNames ∧ tree.prototypes.length ≤ 2 ∧
      ∃ root, tree.resolve "Page" 2 = .ok root ∧
        (∀ place ∈ root.positions 0, place.2.status ≠ .depthLimit) ∧
        (∀ shown, shown ∈ expandedNames (root.positions 0) ↔ shown ∈ tree.reachable "Page") ∧
        (expandedNames (root.positions 0)).Nodup ∧
        (∀ missing, (∃ place ∈ root.positions 0,
            place.2.status = .unresolved ∧ place.2.prototype = missing) ↔
          missing ∉ tree.prototypeNames ∧
            ∃ whole ∈ tree.reachable "Page", tree.Composes whole missing) ∧
        root.size = 1 + ∑ shown ∈ tree.reachable "Page", tree.partCount shown :=
  ⟨by decide, by decide, resolve_complete _ (by decide) (by decide)⟩

end

end ComponentAtlas
