import ComponentAtlas.Proofs.CompositionPositions
import Mathlib.Data.List.Chain

/-!
# Reach of resolved compositions

Along a chain of prototypes, each a part of the one before, expansion goes on from an expanded name
to the next one until the chain ends or the budget does. The budget is that of the position at which
a name is expanded, which may lie deeper than the place of the name in the chain: a prototype that a
longer path reaches first, at the last level of the budget, hides what a shorter path to it would
show.
-/

namespace ComponentAtlas

open ComponentAtlas.Composition (expandedNames mem_expandedNames mem_positions_part EnclosedIn
  enclosed)

/-- Whether a prototype of the tree has another one among its parts. -/
def Tree.Composes (tree : Tree) (whole part : String) : Prop :=
  ∃ node, tree.prototypes.find? whole = some node ∧
    part ∈ node.anatomy.parts.map Part.prototype

/-- Whether the outline stops between a name and a part of it: the name stands expanded at the last
level of the budget, and the part is shown there as lying beyond. -/
def Composition.StopsBetween (root : Composition) (maxDepth : Nat) (whole part : String) : Prop :=
  ∃ here, (maxDepth, here) ∈ root.positions 0 ∧ here.prototype = whole ∧
    here.status = .expanded ∧ ∃ beyond ∈ here.parts, beyond.prototype = part ∧
      beyond.status = .depthLimit

/-- Whether the outline stops on the way along a chain of names. -/
def Composition.StopsOn (root : Composition) (maxDepth : Nat) (chain : List String) : Prop :=
  ∃ before whole part after, chain = before ++ whole :: part :: after ∧
    root.StopsBetween maxDepth whole part

/-- A composition that stops on a chain also stops on a longer one. -/
theorem Composition.StopsOn.cons {root : Composition} {maxDepth : Nat} {chain : List String}
    (h : root.StopsOn maxDepth chain) (name : String) : root.StopsOn maxDepth (name :: chain) := by
  obtain ⟨before, whole, part, after, rfl, hstops⟩ := h
  exact ⟨name :: before, whole, part, after, rfl, hstops⟩

/-- What is known of the composition of a prototype with a given budget. -/
structure Tree.Resolves (tree : Tree) (name : String) (maxDepth : Nat) (root : Composition) :
    Prop where
  prototype_eq : root.prototype = name
  expanded : root.status = .expanded
  marked : tree.Marked maxDepth [] (root.positions 0)

section

variable {tree : Tree} {name : String} {maxDepth : Nat} {root : Composition}

/-- What is composed of parts is a prototype of the tree. -/
theorem Tree.Composes.mem_prototypeNames {whole part : String} (h : tree.Composes whole part) :
    whole ∈ tree.prototypeNames := by
  obtain ⟨node, hfind, _⟩ := h
  exact Keyed.mem_keys_of_find? hfind

/-- A resolved composition is the expansion of a prototype of the tree. -/
theorem Tree.expand_of_resolve_eq_ok (h : tree.resolve name maxDepth = .ok root) :
    (∃ node, tree.prototypes.find? name = some node) ∧
      (tree.expand (maxDepth + 1) [] name none).1 = root := by
  cases hfind : tree.prototypes.find? name with
  | none => simp [resolve, prototype, hfind, bind, Except.bind] at h
  | some node =>
    refine ⟨⟨node, rfl⟩, ?_⟩
    simpa [resolve, prototype, hfind, bind, Except.bind, pure, Except.pure] using h

/-- A resolved composition is marked as every expansion is. -/
theorem Tree.resolves_of_eq_ok (h : tree.resolve name maxDepth = .ok root) :
    tree.Resolves name maxDepth root := by
  have hexpands : tree.ExpandsTo maxDepth 0 [] name none
      (tree.expand (maxDepth + 1) [] name none) :=
    expand_expandsTo (Nat.add_zero _) [] name none
  obtain ⟨⟨node, hfind⟩, hroot⟩ := expand_of_resolve_eq_ok h
  constructor
  · rw [← hroot]
    exact hexpands.prototype_eq
  · rw [← hroot, expand_of_not_mem hfind List.not_mem_nil]
    rfl
  · rw [← hroot]
    exact hexpands.marked

/-- Every prototype of a tree has a composition. -/
theorem Tree.exists_resolves (hname : name ∈ tree.prototypeNames) (maxDepth : Nat) :
    ∃ root, tree.resolve name maxDepth = .ok root ∧ tree.Resolves name maxDepth root := by
  obtain ⟨node, hfind⟩ := Option.isSome_iff_exists.mp (Keyed.find?_isSome.mpr hname)
  have hok : tree.resolve name maxDepth = .ok (tree.expand (maxDepth + 1) [] name none).1 := by
    simp only [resolve, prototype, hfind]
    rfl
  exact ⟨_, hok, resolves_of_eq_ok hok⟩

/-- The parts shown at an expanded position are those of the prototype. -/
theorem Tree.Shows.map_parts {here : Composition} (h : tree.Shows here)
    (hexpanded : here.status = .expanded) :
    ∃ node, tree.prototypes.find? here.prototype = some node ∧
      here.parts.map Composition.prototype = node.anatomy.parts.map Part.prototype := by
  obtain ⟨node, hfind, hparts, _⟩ := h.1 hexpanded
  have hnames := congrArg (List.map Prod.snd) hparts
  simp only [Anatomy.outlined, List.map_map] at hnames
  exact ⟨node, hfind, hnames⟩

/-- An expanded position shows exactly what its prototype is composed of. -/
theorem Tree.Shows.composes_iff {here : Composition} (h : tree.Shows here)
    (hexpanded : here.status = .expanded) {next : String} :
    tree.Composes here.prototype next ↔ ∃ part ∈ here.parts, part.prototype = next := by
  obtain ⟨node, hfind, hnames⟩ := h.map_parts hexpanded
  rw [← List.mem_map, hnames]
  constructor
  · rintro ⟨other, hother, hmem⟩
    obtain rfl : node = other := Option.some.inj (hfind.symm.trans hother)
    exact hmem
  · exact fun hmem => ⟨node, hfind, hmem⟩

namespace Tree.Resolves

/-- The prototype that is resolved is expanded if it exists. -/
theorem mem_expandedNames_root (h : tree.Resolves name maxDepth root) :
    name ∈ expandedNames (root.positions 0) :=
  mem_expandedNames.mpr
    ⟨(0, root), Composition.mem_positions_self 0 root, h.expanded, h.prototype_eq⟩

/-- Each position is marked rightly after those listed before it. -/
theorem markedAfter (h : tree.Resolves name maxDepth root) {depth : Nat} {here : Composition}
    (hhere : (depth, here) ∈ root.positions 0) :
    ∃ before after, root.positions 0 = before ++ (depth, here) :: after ∧
      tree.MarkedAfter maxDepth before depth here := by
  obtain ⟨before, after, hsplit⟩ := List.append_of_mem hhere
  have hmarked := h.marked
  rw [hsplit] at hmarked
  exact ⟨before, after, hsplit, hmarked.markedAfter⟩

/-- A position within the budget that names a prototype of the tree is expanded, there or earlier. -/
theorem mem_expandedNames_of_le (h : tree.Resolves name maxDepth root) {depth : Nat}
    {here : Composition} (hhere : (depth, here) ∈ root.positions 0)
    (hmem : here.prototype ∈ tree.prototypeNames) (hdepth : depth ≤ maxDepth) :
    here.prototype ∈ expandedNames (root.positions 0) := by
  obtain ⟨before, after, hsplit, hmarked⟩ := h.markedAfter hhere
  rw [mem_expandedNames]
  by_cases hearlier :
      ∃ earlier ∈ before, earlier.2.status = .expanded ∧ earlier.2.prototype = here.prototype
  · obtain ⟨earlier, hbefore, hshown⟩ := hearlier
    rw [hsplit]
    exact ⟨earlier, List.mem_append_left _ hbefore, hshown⟩
  · have hexpanded := hmarked.expanded_iff.mpr ⟨hmem, hdepth, hearlier⟩
    exact ⟨(depth, here), hhere, hexpanded, rfl⟩

/-- One step along a chain: from an expanded name to a part of it that the tree has, unless the
outline stops in between. -/
theorem mem_expandedNames_or_stopsBetween (h : tree.Resolves name maxDepth root)
    {whole part : String} (hwhole : whole ∈ expandedNames (root.positions 0))
    (hcomposes : tree.Composes whole part) (hpart : part ∈ tree.prototypeNames) :
    part ∈ expandedNames (root.positions 0) ∨ root.StopsBetween maxDepth whole part := by
  obtain ⟨⟨depth, here⟩, hhere, hexpanded, rfl⟩ := mem_expandedNames.mp hwhole
  obtain ⟨_, _, _, hmarked⟩ := h.markedAfter hhere
  obtain ⟨below, hbelow, rfl⟩ := (hmarked.shows.composes_iff hexpanded).mp hcomposes
  have hlisted := mem_positions_part hhere hbelow
  by_cases hdepth : depth + 1 ≤ maxDepth
  · exact Or.inl (h.mem_expandedNames_of_le hlisted hpart hdepth)
  · obtain ⟨_, _, _, hmarkedBelow⟩ := h.markedAfter hlisted
    have hlast : depth = maxDepth := by
      have hwithin := (hmarked.expanded_iff.mp hexpanded).2.1
      omega
    have hstatus := hmarkedBelow.depthLimit_iff.mpr ⟨hpart, by omega⟩
    subst hlast
    exact Or.inr ⟨here, hhere, rfl, hexpanded, below, hbelow, rfl, hstatus⟩

/-- A whole chain: from an expanded name to the last one, unless the outline stops on the way. The
induction is on the chain, whose inner names are prototypes because they have parts. -/
theorem mem_expandedNames_or_stopsOn (h : tree.Resolves name maxDepth root) {start : String}
    {steps : List String} (hstart : start ∈ expandedNames (root.positions 0))
    (hchain : List.IsChain tree.Composes (start :: steps))
    (hlast : steps.getLastD start ∈ tree.prototypeNames) :
    steps.getLastD start ∈ expandedNames (root.positions 0) ∨
      root.StopsOn maxDepth (start :: steps) := by
  induction steps generalizing start with
  | nil => exact Or.inl hstart
  | cons next rest ih =>
    obtain ⟨hcomposes, hrest⟩ := List.isChain_cons_cons.mp hchain
    rw [List.getLastD_cons] at hlast ⊢
    have hnext : next ∈ tree.prototypeNames := by
      cases rest with
      | nil => exact hlast
      | cons _ _ => exact (List.isChain_cons_cons.mp hrest).1.mem_prototypeNames
    rcases h.mem_expandedNames_or_stopsBetween hstart hcomposes hnext with hexpanded | hstops
    · rcases ih hexpanded hrest hlast with hreached | hstops
      · exact Or.inl hreached
      · exact Or.inr (hstops.cons start)
    · exact Or.inr ⟨[], start, next, rest, rfl, hstops⟩

/-- A position has parts only when it is expanded, and these are parts of its prototype. -/
theorem composes_of_mem_parts (h : tree.Resolves name maxDepth root) {depth : Nat}
    {here part : Composition} (hhere : (depth, here) ∈ root.positions 0)
    (hpart : part ∈ here.parts) :
    here.status = .expanded ∧ tree.Composes here.prototype part.prototype := by
  obtain ⟨_, _, _, hmarked⟩ := h.markedAfter hhere
  have hexpanded : here.status = .expanded := by
    by_contra hother
    rw [(hmarked.shows.2 hother).1] at hpart
    exact List.not_mem_nil hpart
  exact ⟨hexpanded, (hmarked.shows.composes_iff hexpanded).mpr ⟨part, hpart, rfl⟩⟩

/-- What is listed at some depth is the end of a chain of that many steps. -/
theorem exists_chain (h : tree.Resolves name maxDepth root) {depth : Nat} {here : Composition}
    (hhere : (depth, here) ∈ root.positions 0) :
    ∃ steps, steps.length = depth ∧ List.IsChain tree.Composes (name :: steps) ∧
      steps.getLastD name = here.prototype := by
  induction depth generalizing here with
  | zero =>
    obtain ⟨before, after, hsplit⟩ := List.append_of_mem hhere
    rcases enclosed hsplit with ⟨_, rfl⟩ | ⟨_, _, _, hlevel, _⟩
    · exact ⟨[], rfl, List.isChain_singleton _, h.prototype_eq.symm⟩
    · cases hlevel
  | succ depth ih =>
    obtain ⟨before, after, hsplit⟩ := List.append_of_mem hhere
    rcases enclosed hsplit with ⟨hroot, _⟩ | ⟨level, above, habove, hlevel, hpart⟩
    · cases hroot
    · obtain rfl : depth = level := by omega
      have hlisted : (depth, above) ∈ root.positions 0 :=
        hsplit ▸ List.mem_append_left _ habove
      obtain ⟨steps, hlength, hchain, hend⟩ := ih hlisted
      have hcomposes := (h.composes_of_mem_parts hlisted hpart).2
      refine ⟨steps ++ [here.prototype], ?_, ?_, List.getLastD_concat⟩
      · rw [List.length_append, hlength, List.length_singleton]
      · rw [← List.cons_append]
        refine hchain.append (List.isChain_singleton _) ?_
        intro last hlast next hnext
        obtain rfl : here.prototype = next := by simpa using hnext
        obtain rfl : above.prototype = last := by
          rw [← hend]
          simpa [List.getLast?_cons] using hlast
        exact hcomposes

end Tree.Resolves

/-- A page shows an icon directly and, first, a card whose medium has the icon as well. -/
def cardPage : Tree :=
  { prototypes := [
      ("Page", .object [("card", .reference "Card" []), ("icon", .reference "Icon" [])]),
      ("Card", .object [("media", .reference "Media" [])]),
      ("Media", .object [("icon", .reference "Icon" [])]),
      ("Icon", .object [("glyph", .reference "Glyph" [])]),
      ("Glyph", .scalar .null)] }

/-- From the page an icon leads to the glyph. -/
theorem isChain_cardPage : List.IsChain cardPage.Composes ("Page" :: ["Icon", "Glyph"]) := by
  have hpage : cardPage.Composes "Page" "Icon" := ⟨_, rfl, by decide⟩
  have hicon : cardPage.Composes "Icon" "Glyph" := ⟨_, rfl, by decide⟩
  exact List.isChain_cons_cons.mpr ⟨hpage, List.isChain_pair.mpr hicon⟩

/-- Every prototype that a chain reaches within the budget is expanded, unless on the way to it the
outline stops: a prototype of the chain is expanded at the last level of the budget, deeper than its
place in the chain, so the next one is shown as lying beyond. A larger budget hides a prototype that
a smaller one shows in no other way. -/
theorem Tree.resolve_reaches_or_stops (tree : Tree) {name : String}
    (hname : name ∈ tree.prototypeNames) (maxDepth : Nat) :
    ∃ root, tree.resolve name maxDepth = .ok root ∧
      (∀ steps, List.IsChain tree.Composes (name :: steps) → steps.length ≤ maxDepth →
        steps.getLastD name ∈ tree.prototypeNames →
        steps.getLastD name ∈ expandedNames (root.positions 0) ∨
          ∃ before whole part after, name :: steps = before ++ whole :: part :: after ∧
            before.length < maxDepth ∧ root.StopsBetween maxDepth whole part) ∧
      (∀ smaller small, smaller ≤ maxDepth → tree.resolve name smaller = .ok small →
        ∀ shown ∈ expandedNames (small.positions 0),
          shown ∈ expandedNames (root.positions 0) ∨
            ∃ steps, List.IsChain tree.Composes (name :: steps) ∧ steps.length ≤ smaller ∧
              steps.getLastD name = shown ∧ root.StopsOn maxDepth (name :: steps)) := by
  obtain ⟨root, hok, hroot⟩ := exists_resolves hname maxDepth
  refine ⟨root, hok, ?_, ?_⟩
  · intro steps hchain hlength hlast
    rcases hroot.mem_expandedNames_or_stopsOn hroot.mem_expandedNames_root hchain hlast with
      hreached | ⟨before, whole, part, after, hsplit, hstops⟩
    · exact Or.inl hreached
    · refine Or.inr ⟨before, whole, part, after, hsplit, ?_, hstops⟩
      have hlengths := congrArg List.length hsplit
      simp only [List.length_cons, List.length_append] at hlengths
      omega
  · intro smaller small hsmaller hsmall shown hshown
    have hresolves := resolves_of_eq_ok hsmall
    obtain ⟨⟨depth, here⟩, hhere, hexpanded, rfl⟩ := mem_expandedNames.mp hshown
    obtain ⟨_, _, _, hmarked⟩ := hresolves.markedAfter hhere
    obtain ⟨hmem, hdepth, _⟩ := hmarked.expanded_iff.mp hexpanded
    obtain ⟨steps, hlength, hchain, hend⟩ := hresolves.exists_chain hhere
    rw [← hend] at hmem
    rcases hroot.mem_expandedNames_or_stopsOn hroot.mem_expandedNames_root hchain hmem with
      hreached | hstops
    · exact Or.inl (hend ▸ hreached)
    · exact Or.inr ⟨steps, hchain, hlength ▸ hdepth, hend, hstops⟩

/-- The glyph of the page, two steps away, and a budget of three levels after one of two. -/
theorem Tree.resolve_reaches_or_stops_of_cardPage :
    "Page" ∈ cardPage.prototypeNames ∧ ["Icon", "Glyph"].length ≤ 3 ∧
      ∃ root small, cardPage.resolve "Page" 3 = .ok root ∧ cardPage.resolve "Page" 2 = .ok small ∧
        "Glyph" ∈ expandedNames (small.positions 0) ∧
        ("Glyph" ∈ expandedNames (root.positions 0) ∨
          ∃ before whole part after, "Page" :: ["Icon", "Glyph"] = before ++ whole :: part :: after ∧
            before.length < 3 ∧ root.StopsBetween 3 whole part) ∧
        ("Glyph" ∈ expandedNames (root.positions 0) ∨
          ∃ steps, List.IsChain cardPage.Composes ("Page" :: steps) ∧ steps.length ≤ 2 ∧
            steps.getLastD "Page" = "Glyph" ∧ root.StopsOn 3 ("Page" :: steps)) := by
  have hpage : "Page" ∈ cardPage.prototypeNames := by decide
  obtain ⟨root, hok, hreach, hraise⟩ := resolve_reaches_or_stops cardPage hpage 3
  have hglyph := hreach ["Icon", "Glyph"] isChain_cardPage (by decide) (by decide)
  have hraised := hraise 2 _ (by decide) rfl "Glyph" (by decide)
  exact ⟨hpage, by decide, root, _, hok, rfl, by decide, hglyph, hraised⟩

/-- A budget of two levels shows the glyph. With three, the icon is reached first at the last level,
inside the medium, and the glyph is hidden although it is two steps away. -/
theorem Tree.resolve_hides_within_budget :
    List.IsChain cardPage.Composes ("Page" :: ["Icon", "Glyph"]) ∧
      ["Icon", "Glyph"].length ≤ 3 ∧ "Glyph" ∈ cardPage.prototypeNames ∧
      ∃ shown hidden, cardPage.resolve "Page" 2 = .ok shown ∧
        "Glyph" ∈ expandedNames (shown.positions 0) ∧
        cardPage.resolve "Page" 3 = .ok hidden ∧
        "Glyph" ∉ expandedNames (hidden.positions 0) :=
  ⟨isChain_cardPage, by decide, by decide, _, _, rfl, by decide, rfl, by decide⟩

end

end ComponentAtlas
