import ComponentAtlas.Proofs.CompositionCompleteness
import Mathlib.Algebra.Order.BigOperators.Group.Finset

/-!
# Bounds of compositions

Prototypes may refer to each other in circles, so what ends an expansion is neither the tree nor the
way down in it but the list of expanded names, which all branches share: a call that goes further
down expands a prototype that was expanded nowhere before. So the recursion ends whatever its
budget, no position lies deeper than there are prototypes, and there are at most as many positions as
all prototypes together have parts, and one.
-/

namespace ComponentAtlas

open ComponentAtlas.Composition (positions_eq positionsAmong expandedNames size_eq)

/-- Whether expanding positions one after the other, all at one depth, ends with the given outlines
and the given expanded names. The depth is counted upwards and compared with the budget, and it is
counted no further than a limit. Nothing else bounds the recursion. -/
inductive Tree.Runs (tree : Tree) (limit maxDepth : Nat) : (depth : Nat) →
    (expanded : List String) → (positions : List (Option String × String)) →
    (outlines : List Composition) → (expandedAfter : List String) → Prop
  | done (depth : Nat) (expanded : List String) :
    Runs tree limit maxDepth depth expanded [] [] expanded
  | unresolved {depth : Nat} {expanded after : List String} {role : Option String} {name : String}
      {rest : List (Option String × String)} {others : List Composition} :
    tree.prototypes.find? name = none →
    Runs tree limit maxDepth depth expanded rest others after →
    Runs tree limit maxDepth depth expanded ((role, name) :: rest)
      (.leaf name role .unresolved :: others) after
  | depthLimit {depth : Nat} {expanded after : List String} {role : Option String} {name : String}
      {rest : List (Option String × String)} {others : List Composition} {node : Node} :
    tree.prototypes.find? name = some node → maxDepth < depth →
    Runs tree limit maxDepth depth expanded rest others after →
    Runs tree limit maxDepth depth expanded ((role, name) :: rest)
      (.leaf name role .depthLimit :: others) after
  | revisited {depth : Nat} {expanded after : List String} {role : Option String} {name : String}
      {rest : List (Option String × String)} {others : List Composition} {node : Node} :
    tree.prototypes.find? name = some node → depth ≤ maxDepth → name ∈ expanded →
    Runs tree limit maxDepth depth expanded rest others after →
    Runs tree limit maxDepth depth expanded ((role, name) :: rest)
      (.leaf name role .revisited :: others) after
  | expanded {depth : Nat} {expanded between after : List String} {role : Option String}
      {name : String} {rest : List (Option String × String)} {parts others : List Composition}
      {node : Node} :
    tree.prototypes.find? name = some node → depth ≤ maxDepth → name ∉ expanded →
    depth + 1 ≤ limit →
    Runs tree limit maxDepth (depth + 1) (name :: expanded) node.anatomy.outlined parts between →
    Runs tree limit maxDepth depth between rest others after →
    Runs tree limit maxDepth depth expanded ((role, name) :: rest)
      (.position name role .expanded node.anatomy.parent parts :: others) after

/-- The prototypes that have not been expanded. -/
def Tree.unexpanded (tree : Tree) (expanded : List String) : Finset String :=
  tree.prototypeNames.toFinset \ expanded.toFinset

section

variable {tree : Tree} {limit maxDepth : Nat}

/-- A name is left to be expanded when it is that of a prototype and has not been expanded. -/
theorem Tree.mem_unexpanded {expanded : List String} {name : String} :
    name ∈ tree.unexpanded expanded ↔ name ∈ tree.prototypeNames ∧ name ∉ expanded := by
  simp only [unexpanded, Finset.mem_sdiff, List.mem_toFinset]

/-- The more names have been expanded, the fewer are left. -/
theorem Tree.unexpanded_subset (tree : Tree) {expanded after : List String} (h : expanded ⊆ after) :
    tree.unexpanded after ⊆ tree.unexpanded expanded := by
  intro name hname
  obtain ⟨hmem, hnew⟩ := mem_unexpanded.mp hname
  exact mem_unexpanded.mpr ⟨hmem, fun hold => hnew (h hold)⟩

/-- At first there are at most as many names left as there are prototypes. -/
theorem Tree.card_unexpanded_nil_le (tree : Tree) :
    (tree.unexpanded []).card ≤ tree.prototypes.length := by
  rw [unexpanded, List.toFinset_nil, Finset.sdiff_empty]
  exact (List.toFinset_card_le _).trans (List.length_map _).le

/-- Expanding a prototype leaves fewer of them. -/
theorem Tree.card_unexpanded_cons_lt {name : String} {expanded : List String}
    (hmem : name ∈ tree.prototypeNames) (hnew : name ∉ expanded) :
    (tree.unexpanded (name :: expanded)).card < (tree.unexpanded expanded).card := by
  have hsubset := tree.unexpanded_subset (List.subset_cons_self name expanded)
  refine Finset.card_lt_card ((Finset.ssubset_iff_of_subset hsubset).mpr ⟨name, ?_, ?_⟩)
  · exact mem_unexpanded.mpr ⟨hmem, hnew⟩
  · exact fun hname => (mem_unexpanded.mp hname).2 List.mem_cons_self

/-- Positions at one depth have a run when the parts of every prototype that is not yet expanded
have one. The names expanded on the way are handed on, and there are never fewer. -/
theorem Tree.exists_runs_of_below {count depth : Nat}
    (hbelow : ∀ expanded positions, (tree.unexpanded expanded).card < count →
      depth + 1 + (tree.unexpanded expanded).card ≤ limit →
      ∃ outlines after, tree.Runs limit maxDepth (depth + 1) expanded positions outlines after ∧
        expanded ⊆ after)
    (positions : List (Option String × String)) {expanded : List String}
    (hcount : (tree.unexpanded expanded).card ≤ count)
    (hlimit : depth + (tree.unexpanded expanded).card ≤ limit) :
    ∃ outlines after, tree.Runs limit maxDepth depth expanded positions outlines after ∧
      expanded ⊆ after := by
  induction positions generalizing expanded with
  | nil => exact ⟨[], expanded, .done depth expanded, List.Subset.refl _⟩
  | cons position rest ih =>
    obtain ⟨role, name⟩ := position
    cases hfind : tree.prototypes.find? name with
    | none =>
      obtain ⟨others, after, hrest, hsubset⟩ := ih hcount hlimit
      exact ⟨_, after, .unresolved hfind hrest, hsubset⟩
    | some node =>
      by_cases hwithin : depth ≤ maxDepth
      · by_cases hmem : name ∈ expanded
        · obtain ⟨others, after, hrest, hsubset⟩ := ih hcount hlimit
          exact ⟨_, after, .revisited hfind hwithin hmem hrest, hsubset⟩
        · have hfewer := card_unexpanded_cons_lt (Keyed.mem_keys_of_find? hfind) hmem
          obtain ⟨parts, between, hparts, hgrown⟩ := hbelow (name :: expanded)
            node.anatomy.outlined (by omega) (by omega)
          have hkept : expanded ⊆ between :=
            List.Subset.trans (List.subset_cons_self _ _) hgrown
          have hleft := Finset.card_le_card (tree.unexpanded_subset hkept)
          obtain ⟨others, after, hrest, hsubset⟩ := ih (hleft.trans hcount) (by omega)
          exact ⟨_, after, .expanded hfind hwithin hmem (by omega) hparts hrest,
            List.Subset.trans hkept hsubset⟩
      · obtain ⟨others, after, hrest, hsubset⟩ := ih hcount hlimit
        exact ⟨_, after, .depthLimit hfind (Nat.lt_of_not_le hwithin) hrest, hsubset⟩

/-- The recursion ends from every state, whatever the budget. The induction is on the number of
prototypes that are not expanded, which every step down makes smaller. -/
theorem Tree.exists_runs {depth : Nat} {expanded : List String}
    (hlimit : depth + (tree.unexpanded expanded).card ≤ limit) (maxDepth : Nat)
    (positions : List (Option String × String)) :
    ∃ outlines after, tree.Runs limit maxDepth depth expanded positions outlines after ∧
      expanded ⊆ after := by
  induction hcount : (tree.unexpanded expanded).card using Nat.strongRecOn
    generalizing depth expanded positions with
  | ind count ih =>
    refine exists_runs_of_below (fun seen below hfewer hdeeper => ?_) positions hcount.le hlimit
    exact ih _ hfewer hdeeper below rfl

end

/-- To thread a state through mapped items is to map each item when its turn comes. -/
theorem threadMap_map {σ α β γ : Type} (step : σ → β → γ × σ) (f : α → β) (state : σ)
    (items : List α) :
    threadMap step state (items.map f) = threadMap (fun state a => step state (f a)) state items := by
  induction items generalizing state with
  | nil => rfl
  | cons a rest ih => simp only [List.map_cons, threadMap, ih]

/-- A run has only one end, and this is what expansion computes. -/
theorem Tree.Runs.eq_threadMap {tree : Tree} {limit maxDepth depth : Nat}
    {expanded after : List String} {positions : List (Option String × String)}
    {outlines : List Composition}
    (h : tree.Runs limit maxDepth depth expanded positions outlines after) :
    threadMap (fun seen position =>
      tree.expand (maxDepth + 1 - depth) seen position.2 position.1) expanded positions =
        (outlines, after) := by
  induction h with
  | done => rfl
  | unresolved hfind _ ih =>
    simp only [threadMap, expand_of_missing hfind, ih]
  | depthLimit hfind hbeyond _ ih =>
    have hlevels : maxDepth + 1 - _ = 0 := Nat.sub_eq_zero_of_le hbeyond
    rw [hlevels] at ih ⊢
    simp only [threadMap, expand_zero hfind, ih]
  | revisited hfind hwithin hmem _ ih =>
    rw [Nat.sub_add_comm hwithin] at ih ⊢
    simp only [threadMap, expand_of_mem hfind hmem, ih]
  | expanded hfind hwithin hnew _ _ _ ihparts ih =>
    rw [Nat.sub_add_comm hwithin] at ih ⊢
    rw [Nat.add_sub_add_right, Anatomy.outlined, threadMap_map] at ihparts
    simp only [threadMap, expand_of_not_mem hfind hnew, ihparts, ih]

namespace Composition

/-- The positions of one of several compositions are listed among theirs, in the same order. -/
theorem positions_sublist_positionsAmong {part : Composition} {parts : List Composition}
    (h : part ∈ parts) (depth : Nat) :
    (part.positions depth).Sublist (positionsAmong depth parts) := by
  induction parts with
  | nil => cases h
  | cons first rest ih =>
    rw [positionsAmong]
    rcases List.mem_cons.mp h with rfl | hrest
    · exact List.sublist_append_left _ _
    · exact (ih hrest).trans (List.sublist_append_right _ _)

/-- Positions that lead downwards, each a part of the one before, are listed in this order. -/
theorem sublist_positions_of_isChain {top : Composition} {chain : List Composition}
    (h : List.IsChain (fun above here => here ∈ above.parts) (top :: chain)) (depth : Nat) :
    (top :: chain).Sublist ((top.positions depth).map Prod.snd) := by
  induction chain generalizing top depth with
  | nil =>
    rw [positions_eq, List.map_cons]
    exact (List.nil_sublist _).cons_cons top
  | cons part rest ih =>
    obtain ⟨hpart, hrest⟩ := List.isChain_cons_cons.mp h
    have hlisted := (positions_sublist_positionsAmong hpart (depth + 1)).map Prod.snd
    rw [positions_eq, List.map_cons]
    exact ((ih hrest (depth + 1)).trans hlisted).cons_cons top

/-- Every position on the way down but the last has a part. -/
theorem exists_part_of_mem_dropLast {top above : Composition} {chain : List Composition}
    (h : List.IsChain (fun above here => here ∈ above.parts) (top :: chain))
    (habove : above ∈ (top :: chain).dropLast) : ∃ part, part ∈ above.parts := by
  induction chain generalizing top with
  | nil => cases habove
  | cons part rest ih =>
    obtain ⟨hpart, hrest⟩ := List.isChain_cons_cons.mp h
    rw [List.dropLast_cons_cons, List.mem_cons] at habove
    rcases habove with rfl | hbelow
    · exact ⟨part, hpart⟩
    · exact ih hrest hbelow

/-- The expanded names are the prototypes at the expanded positions. -/
theorem expandedNames_eq_map (places : List (Nat × Composition)) :
    expandedNames places =
      ((places.map Prod.snd).filter fun here => here.status = .expanded).map prototype := by
  rw [List.filter_map, List.map_map]
  rfl

end Composition

section

variable {tree : Tree} {name : String} {maxDepth : Nat} {root : Composition}

namespace Tree.Resolves

/-- The way down to a position leads through expanded positions of different prototypes. -/
theorem nodup_of_isChain (h : tree.Resolves name maxDepth root) {chain : List Composition}
    (hchain : List.IsChain (fun above here => here ∈ above.parts) (root :: chain)) :
    (∀ above ∈ (root :: chain).dropLast, above.status = .expanded) ∧
      ((root :: chain).dropLast.map Composition.prototype).Nodup := by
  have hlisted := Composition.sublist_positions_of_isChain hchain 0
  have habove := (List.dropLast_sublist (root :: chain)).trans hlisted
  have hexpanded : ∀ above ∈ (root :: chain).dropLast, above.status = .expanded := by
    intro above hmem
    obtain ⟨part, hpart⟩ := Composition.exists_part_of_mem_dropLast hchain hmem
    obtain ⟨⟨depth, _⟩, hplace, rfl⟩ := List.mem_map.mp (habove.subset hmem)
    exact (h.composes_of_mem_parts hplace hpart).1
  refine ⟨hexpanded, ?_⟩
  have hnames := (habove.filter fun here => here.status = .expanded).map Composition.prototype
  rw [List.filter_eq_self.mpr (by simpa using hexpanded),
    ← Composition.expandedNames_eq_map] at hnames
  exact h.expandedNames_nodup.sublist hnames

/-- No position lies more than one level beyond the budget, or deeper than there are prototypes. -/
theorem depth_le (h : tree.Resolves name maxDepth root) {depth : Nat} {here : Composition}
    (hhere : (depth, here) ∈ root.positions 0) :
    depth ≤ min (maxDepth + 1) tree.prototypes.length := by
  refine Nat.le_min.mpr ⟨?_, h.depth_le_prototypes hhere⟩
  obtain ⟨before, after, hsplit⟩ := List.append_of_mem hhere
  rcases Composition.enclosed hsplit with ⟨rfl, _⟩ | ⟨level, above, habove, rfl, hpart⟩
  · exact Nat.zero_le _
  · have hplace : (level, above) ∈ root.positions 0 := hsplit ▸ List.mem_append_left _ habove
    have hexpanded := (h.composes_of_mem_parts hplace hpart).1
    obtain ⟨_, _, _, hmarked⟩ := h.markedAfter hplace
    exact Nat.succ_le_succ (hmarked.expanded_iff.mp hexpanded).2.1

/-- There are at most as many positions as the prototypes of the tree have parts, and one. -/
theorem size_le (h : tree.Resolves name maxDepth root) :
    root.size ≤ 1 + ∑ shown ∈ tree.prototypeNames.toFinset, tree.partCount shown := by
  have hnames : (expandedNames (root.positions 0)).toFinset ⊆ tree.prototypeNames.toFinset := by
    intro shown hshown
    exact List.mem_toFinset.mpr (h.expandedNames_subset (List.mem_toFinset.mp hshown))
  have hsum := Finset.sum_le_sum_of_subset (f := tree.partCount) hnames
  rw [size_eq root 0, partTotal_eq (fun _ => h.shows) h.expandedNames_nodup]
  exact Nat.add_le_add_left hsum 1

end Tree.Resolves

/-- The recursion that looks a prototype up has exactly one end, its composition, and needs no depth
beyond the number of prototypes. -/
theorem Tree.runs_iff {limit : Nat} (hlimit : tree.prototypes.length ≤ limit)
    (hok : tree.resolve name maxDepth = .ok root) (outlines : List Composition) :
    (∃ after, tree.Runs limit maxDepth 0 [] [(none, name)] outlines after) ↔ outlines = [root] := by
  have hroot := (expand_of_resolve_eq_ok hok).2
  have hend : ∀ ended after, tree.Runs limit maxDepth 0 [] [(none, name)] ended after →
      ended = [root] := by
    intro ended after hrun
    rw [← hroot]
    exact (congrArg Prod.fst hrun.eq_threadMap).symm
  constructor
  · rintro ⟨after, hrun⟩
    exact hend outlines after hrun
  · rintro rfl
    have hcount : 0 + (tree.unexpanded []).card ≤ limit := by
      have hnone := tree.card_unexpanded_nil_le
      omega
    obtain ⟨ended, after, hrun, _⟩ := exists_runs hcount maxDepth [(none, name)]
    exact ⟨after, hend ended after hrun ▸ hrun⟩

/-- Expansion ends on every tree and with every budget, with an outline that the tree bounds. The
recursion ends in exactly one way and counts no depth beyond the number of prototypes; every
position lies within this number and one level beyond the budget; the way down to a position leads
through expanded positions of different prototypes; and there are at most as many positions as all
prototypes have parts, and one. -/
theorem Tree.resolve_bounded (tree : Tree) {name : String} (hname : name ∈ tree.prototypeNames)
    (maxDepth : Nat) :
    ∃ root, tree.resolve name maxDepth = .ok root ∧
      (∀ limit, tree.prototypes.length ≤ limit → ∀ outlines,
        (∃ after, tree.Runs limit maxDepth 0 [] [(none, name)] outlines after) ↔
          outlines = [root]) ∧
      (∀ place ∈ root.positions 0, place.1 ≤ min (maxDepth + 1) tree.prototypes.length) ∧
      (∀ chain, List.IsChain (fun above here => here ∈ above.parts) (root :: chain) →
        (∀ above ∈ (root :: chain).dropLast, above.status = .expanded) ∧
          ((root :: chain).dropLast.map Composition.prototype).Nodup) ∧
      root.size ≤ 1 + ∑ shown ∈ tree.prototypeNames.toFinset, tree.partCount shown := by
  obtain ⟨root, hok, h⟩ := exists_resolves hname maxDepth
  exact ⟨root, hok, fun _ hlimit => runs_iff hlimit hok, fun _ => h.depth_le,
    fun _ => h.nodup_of_isChain, h.size_le⟩

/-- Two prototypes that refer to each other and themselves, with the largest budget of a word. -/
theorem Tree.resolve_bounded_of_circle :
    let tree : Tree :=
      { prototypes := [("Page", .object [("page", .reference "Page" []),
          ("menu", .reference "Menu" [("page", .reference "Page" [])])]),
          ("Menu", .reference "Page" [("menu", .reference "Menu" [])])] }
    let maxDepth := UInt64.size - 1
    "Page" ∈ tree.prototypeNames ∧ ∃ root, tree.resolve "Page" maxDepth = .ok root ∧
      (∀ limit, tree.prototypes.length ≤ limit → ∀ outlines,
        (∃ after, tree.Runs limit maxDepth 0 [] [(none, "Page")] outlines after) ↔
          outlines = [root]) ∧
      (∀ place ∈ root.positions 0, place.1 ≤ min (maxDepth + 1) tree.prototypes.length) ∧
      (∀ chain, List.IsChain (fun above here => here ∈ above.parts) (root :: chain) →
        (∀ above ∈ (root :: chain).dropLast, above.status = .expanded) ∧
          ((root :: chain).dropLast.map Composition.prototype).Nodup) ∧
      root.size ≤ 1 + ∑ shown ∈ tree.prototypeNames.toFinset, tree.partCount shown :=
  ⟨by decide, resolve_bounded _ (by decide) _⟩

end

end ComponentAtlas
