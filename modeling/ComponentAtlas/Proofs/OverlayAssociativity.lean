import ComponentAtlas.Proofs.MergeOutcome

/-!
# Overlays of three trees

Under the strict policy it does not matter whether three trees are laid over each other from the
left or from the right: if the first way meets no clash, neither does the second, and the results
are equal, the order of names included. The reason is that nodes without a clash have the same
shape, so whether a node is merged or replaced depends on the later node alone.
-/

namespace ComponentAtlas

/-- Whether nodes of a kind are merged into earlier nodes of their shape. -/
def Kind.mergesIn : Kind → Bool
  | .object | .directives => true
  | .scalar | .expression | .reference => false

/-- Under the strict policy the kind of the later node alone decides whether it is merged in. -/
theorem Kind.extendedBy_eq_mergesIn {existing incoming : Kind}
    (h : MergePolicy.strict.allows existing incoming) :
    existing.extendedBy incoming = incoming.mergesIn := by
  revert h
  cases existing <;> cases incoming <;> decide

namespace Node

/-- Two nodes do not clash when the policy allows their kinds and, if the later one is merged in,
their entries do not clash either. -/
theorem clash?_eq_none {policy : MergePolicy} {existing incoming : Node} :
    existing.clash? policy incoming = none ↔ policy.allows existing.kind incoming.kind ∧
      (existing.kind.extendedBy incoming.kind →
        clashAmong? policy existing.children incoming.children = none) := by
  rw [clash?_eq]
  by_cases hallows : policy.allows existing.kind incoming.kind
  · by_cases hext : existing.kind.extendedBy incoming.kind <;> simp [hallows, hext]
  · simp [hallows]

/-- Under the strict policy, a later node that merges in does so entry by entry. -/
theorem overlay_of_mergesIn {existing incoming : Node}
    (h : existing.clash? .strict incoming = none) (hin : incoming.kind.mergesIn = true) :
    existing.kind.extendedBy incoming.kind = true ∧
      existing.overlay incoming =
        existing.withChildren (overlayEntries existing.children incoming.children) ∧
      (existing.overlay incoming).children =
        overlayEntries existing.children incoming.children := by
  have hext : existing.kind.extendedBy incoming.kind = true := by
    rw [Kind.extendedBy_eq_mergesIn (clash?_eq_none.mp h).1, hin]
  have heq := overlay_of_extendedBy hext
  exact ⟨hext, heq, by rw [heq, children_withChildren_of_extendedBy hext]⟩

/-- Of children that a node is given one after the other, the last count. -/
theorem withChildren_withChildren (node : Node) (first second : Keyed Node) :
    (node.withChildren first).withChildren second = node.withChildren second := by
  cases node <;> rfl

end Node

/-- What is found in a list of entries that do not clash with others does not clash with what is
found there. -/
theorem clash?_of_find? {policy : MergePolicy} {base next : Keyed Node}
    (h : clashAmong? policy base next = none) {name : String} {existing incoming : Node}
    (hbase : base.find? name = some existing) (hnext : next.find? name = some incoming) :
    existing.clash? policy incoming = none :=
  clashAmong?_eq_none.mp h _ (Keyed.mem_of_find? hnext) existing hbase

/-- To see that entries do not clash it is enough to look at what is found under each name. -/
theorem clashAmong?_eq_none_of_find? {policy : MergePolicy} {base next : Keyed Node}
    (hnext : next.Distinct)
    (h : ∀ name existing incoming, base.find? name = some existing →
      next.find? name = some incoming → existing.clash? policy incoming = none) :
    clashAmong? policy base next = none :=
  clashAmong?_eq_none.mpr fun (name, incoming) hmem existing hbase =>
    h name existing incoming hbase (Keyed.find?_of_mem hnext hmem)

/-- What laying three nodes over each other from the left implies for the other grouping. -/
structure Regroups (first second third : Node) : Prop where
  /-- The later two do not clash. -/
  later : second.clash? .strict third = none
  /-- Their overlay does not clash with the first. -/
  whole : first.clash? .strict (second.overlay third) = none
  equal : (first.overlay second).overlay third = first.overlay (second.overlay third)

/-- What laying three lists of entries over each other from the left implies for the other
grouping. -/
structure RegroupsAmong (first second third : Keyed Node) : Prop where
  later : clashAmong? .strict second third = none
  whole : clashAmong? .strict first (overlayEntries second third) = none
  equal : overlayEntries (overlayEntries first second) third =
    overlayEntries first (overlayEntries second third)

/-- Appending the names that are new can be done in one go or in two. -/
theorem append_filter_append (first second third : List String) :
    (first ++ second.filter (· ∉ first)) ++
        third.filter (· ∉ first ++ second.filter (· ∉ first)) =
      first ++ (second ++ third.filter (· ∉ second)).filter (· ∉ first) := by
  rw [List.filter_append, List.filter_filter, List.append_assoc]
  congr 2
  refine List.filter_congr fun name _ => ?_
  by_cases hfirst : name ∈ first <;> simp [hfirst]

/-- Entries can be regrouped when the nodes that all three lists have under a name can. -/
theorem regroupsAmong_of_nodes {first second third : Keyed Node} (hfirst : first.Distinct)
    (hsecond : second.Distinct) (hthird : third.Distinct)
    (hnodes : ∀ name a b c, first.find? name = some a → second.find? name = some b →
      third.find? name = some c → a.clash? .strict b = none →
      (a.overlay b).clash? .strict c = none → Regroups a b c)
    (hleft : clashAmong? .strict first second = none)
    (hright : clashAmong? .strict (overlayEntries first second) third = none) :
    RegroupsAmong first second third := by
  have hfind := find?_overlayEntries first hsecond
  have hlater := find?_overlayEntries second hthird
  have hdistinct := distinct_overlayEntries hsecond third
  have hregroups : ∀ name a b c, first.find? name = some a → second.find? name = some b →
      third.find? name = some c → Regroups a b c := by
    intro name a b c ha hb hc
    refine hnodes name a b c ha hb hc (clash?_of_find? hleft ha hb) ?_
    exact clash?_of_find? hright (by rw [hfind, ha, hb]; rfl) hc
  constructor
  · refine clashAmong?_eq_none_of_find? hthird fun name b c hb hc => ?_
    cases ha : first.find? name with
    | none => exact clash?_of_find? hright (by rw [hfind, ha, hb]; rfl) hc
    | some a => exact (hregroups name a b c ha hb hc).later
  · refine clashAmong?_eq_none_of_find? hdistinct fun name a m ha hm => ?_
    rw [hlater] at hm
    cases hb : second.find? name with
    | none =>
      cases hc : third.find? name with
      | none => simp [hb, hc, Option.merge] at hm
      | some c =>
        obtain rfl : c = m := by simpa [hb, hc, Option.merge] using hm
        exact clash?_of_find? hright (by rw [hfind, ha, hb]; rfl) hc
    | some b =>
      cases hc : third.find? name with
      | none =>
        obtain rfl : b = m := by simpa [hb, hc, Option.merge] using hm
        exact clash?_of_find? hleft ha hb
      | some c =>
        obtain rfl : b.overlay c = m := by simpa [hb, hc, Option.merge] using hm
        exact (hregroups name a b c ha hb hc).whole
  · refine Keyed.ext_of_distinct
      (distinct_overlayEntries (distinct_overlayEntries hfirst second) third) ?_ fun name => ?_
    · rw [keys_overlayEntries _ hthird, keys_overlayEntries _ hsecond,
        keys_overlayEntries _ hdistinct, keys_overlayEntries _ hthird]
      exact append_filter_append _ _ _
    · rw [find?_overlayEntries _ hthird, hfind, find?_overlayEntries _ hdistinct, hlater]
      cases ha : first.find? name with
      | none => cases second.find? name <;> cases third.find? name <;> rfl
      | some a =>
        cases hb : second.find? name with
        | none => cases third.find? name <;> rfl
        | some b =>
          cases hc : third.find? name with
          | none => rfl
          | some c => exact congrArg some (hregroups name a b c ha hb hc).equal

namespace Node

/-- A node laid over another without a clash has its shape. -/
theorem shape_overlay {existing incoming : Node}
    (h : MergePolicy.strict.allows existing.kind incoming.kind) :
    (existing.overlay incoming).kind.shape = incoming.kind.shape := by
  cases hext : existing.kind.extendedBy incoming.kind with
  | false => rw [overlay_of_not_extendedBy hext]
  | true =>
    rw [overlay_of_extendedBy hext, kind_withChildren]
    exact MergePolicy.strict_allows.mp h

/-- Nodes can be regrouped when their entries can. A node that is not merged in replaces what was
laid down before it, so there are two ways for the entries not to matter. -/
theorem regroups_of_entries {first second third : Node}
    (hleft : first.clash? .strict second = none)
    (hright : (first.overlay second).clash? .strict third = none)
    (hentries : clashAmong? .strict first.children second.children = none →
      clashAmong? .strict (overlayEntries first.children second.children) third.children = none →
      RegroupsAmong first.children second.children third.children) :
    Regroups first second third := by
  have hfirst := (clash?_eq_none.mp hleft).1
  have hoverlay := (clash?_eq_none.mp hright).1
  have hshape : second.kind.shape = third.kind.shape := by
    rw [← shape_overlay hfirst]
    exact MergePolicy.strict_allows.mp hoverlay
  have hsecond := MergePolicy.strict_allows.mpr hshape
  have hacross := MergePolicy.strict_allows.mpr ((MergePolicy.strict_allows.mp hfirst).trans hshape)
  cases hthird : third.kind.mergesIn with
  | false =>
    have hkeep : ∀ {node : Node}, MergePolicy.strict.allows node.kind third.kind →
        node.kind.extendedBy third.kind = false := fun h => by
      rw [Kind.extendedBy_eq_mergesIn h, hthird]
    have hlater := overlay_of_not_extendedBy (hkeep hsecond)
    constructor
    · exact clash?_eq_none.mpr ⟨hsecond, by simp [hkeep hsecond]⟩
    · rw [hlater]
      exact clash?_eq_none.mpr ⟨hacross, by simp [hkeep hacross]⟩
    · rw [hlater, overlay_of_not_extendedBy (hkeep hoverlay),
        overlay_of_not_extendedBy (hkeep hacross)]
  | true =>
    have hextLater : second.kind.extendedBy third.kind = true := by
      rw [Kind.extendedBy_eq_mergesIn hsecond, hthird]
    have hkind : (second.overlay third).kind = second.kind := by
      rw [overlay_of_extendedBy hextLater, kind_withChildren]
    have hextWhole : first.kind.extendedBy (second.overlay third).kind = second.kind.mergesIn := by
      rw [hkind, Kind.extendedBy_eq_mergesIn hfirst]
    cases hmerges : second.kind.mergesIn with
    | false =>
      have hreplaced : first.overlay second = second :=
        overlay_of_not_extendedBy (by rw [Kind.extendedBy_eq_mergesIn hfirst, hmerges])
      rw [hmerges] at hextWhole
      rw [hreplaced] at hright
      constructor
      · exact hright
      · exact clash?_eq_none.mpr ⟨hkind ▸ hfirst, by simp [hextWhole]⟩
      · rw [hreplaced, overlay_of_not_extendedBy hextWhole]
    | true =>
      rw [hmerges] at hextWhole
      obtain ⟨hextFirst, hfirstEq, hfirstChildren⟩ := overlay_of_mergesIn hleft hmerges
      obtain ⟨hextBoth, hbothEq, _⟩ := overlay_of_mergesIn hright hthird
      have hclashRight := (clash?_eq_none.mp hright).2 hextBoth
      rw [hfirstChildren] at hclashRight
      have hregroups := hentries ((clash?_eq_none.mp hleft).2 hextFirst) hclashRight
      have hlater : second.clash? .strict third = none :=
        clash?_eq_none.mpr ⟨hsecond, fun _ => hregroups.later⟩
      obtain ⟨_, _, hlaterChildren⟩ := overlay_of_mergesIn hlater hthird
      constructor
      · exact hlater
      · refine clash?_eq_none.mpr ⟨hkind ▸ hfirst, fun _ => ?_⟩
        rw [hlaterChildren]
        exact hregroups.whole
      · rw [hbothEq, hfirstChildren, hfirstEq, withChildren_withChildren, hregroups.equal,
          overlay_of_extendedBy hextWhole, hlaterChildren]

/-- Nodes that can be laid over each other from the left can be regrouped. -/
theorem regroups {first second third : Node} (hfirst : first.DistinctKeys)
    (hsecond : second.DistinctKeys) (hthird : third.DistinctKeys)
    (hleft : first.clash? .strict second = none)
    (hright : (first.overlay second).clash? .strict third = none) :
    Regroups first second third := by
  induction third using inductionOnChildren generalizing first second with
  | step third ih =>
    refine regroups_of_entries hleft hright fun hclash hclash' => ?_
    refine regroupsAmong_of_nodes hfirst.children.1 hsecond.children.1 hthird.children.1 ?_
      hclash hclash'
    intro name a b c ha hb hc hab habc
    exact ih (name, c) (Keyed.mem_of_find? hc) (hfirst.children.node ha)
      (hsecond.children.node hb) (hthird.children.node hc) hab habc

end Node

/-- Entries that can be laid over each other from the left can be regrouped. -/
theorem regroupsAmong {first second third : Keyed Node} (hfirst : DistinctKeysAmong first)
    (hsecond : DistinctKeysAmong second) (hthird : DistinctKeysAmong third)
    (hleft : clashAmong? .strict first second = none)
    (hright : clashAmong? .strict (overlayEntries first second) third = none) :
    RegroupsAmong first second third :=
  regroupsAmong_of_nodes hfirst.1 hsecond.1 hthird.1
    (fun _ _ _ _ ha hb hc hab habc =>
      Node.regroups (hfirst.node ha) (hsecond.node hb) (hthird.node hc) hab habc) hleft hright

end ComponentAtlas
