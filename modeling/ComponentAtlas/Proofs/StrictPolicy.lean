import ComponentAtlas.Proofs.MergeConflicts
import ComponentAtlas.Proofs.MergeGrouping

/-!
# The strict policy

Two trees conflict where their paths or their prototypes do. The strict policy refuses them exactly
in this case and reports the first conflict, the paths before the prototypes and each in the order
of the later tree. What it does not refuse it merges as the overriding policy does.
-/

namespace ComponentAtlas

/-- The position in a tree that a sequence of names leads to. Among prototypes the first name is the
root of the position. -/
def Division.position : Division → List String → PropertyPath
  | .paths, steps => { PropertyPath.ofPaths with segments := steps }
  | .prototypes, steps =>
    { PropertyPath.ofPrototype (steps.headD "") with segments := steps.tail }

/-- The fault that reports a clash in one of the two maps of a tree. -/
def Clash.faultIn (clash : Clash) (division : Division) : Fault :=
  .mergeConflict (division.position clash.steps) clash.existing clash.incoming

namespace Tree

/-- The places of the nodes of a tree in document order: the paths before the prototypes. -/
def places (tree : Tree) : List (Division × List String) :=
  (pathsAmong tree.paths).map (Prod.mk .paths) ++
    (pathsAmong tree.prototypes).map (Prod.mk .prototypes)

/-- What it is for two trees to conflict in one of their two maps. -/
def Conflicts (base next : Tree) (division : Division) (clash : Clash) : Prop :=
  clash.Occurs (base.entriesOf division) (next.entriesOf division)

/-- What it is for a conflict of two trees to be the first one in the order of the later tree. -/
structure FirstConflict (base next : Tree) (division : Division) (clash : Clash) : Prop where
  conflicts : base.Conflicts next division clash
  first : ∃ before after, next.places = before ++ (division, clash.steps) :: after ∧
    ∀ (earlier : Division) (other : Clash), (earlier, other.steps) ∈ before →
      ¬base.Conflicts next earlier other

variable {base : Tree} {fault : Fault}

/-- Places of one map of a tree hold only conflicts of that map. -/
theorem not_conflicts_of_mem_map {next : Tree} {division earlier : Division} {paths : List (List String)}
    {other : Clash} (hnone : ∀ clash : Clash, clash.steps ∈ paths →
      ¬base.Conflicts next division clash)
    (hmem : (earlier, other.steps) ∈ paths.map (Prod.mk division)) :
    ¬base.Conflicts next earlier other := by
  obtain ⟨steps, hsteps, heq⟩ := List.mem_map.mp hmem
  obtain ⟨rfl, rfl⟩ := Prod.mk.inj heq
  exact hnone other hsteps

/-- The strict policy reports the first conflict in each of the two maps of a tree. -/
theorem reports_conflicts (base : Tree) (next : DistinctTree) (division : Division) :
    Reports (pathsAmong (next.entriesOf division)) (base.Conflicts next division)
      (clashAmong? .strict (base.entriesOf division) (next.entriesOf division)) :=
  reports_among (next.distinctAmong division) (base.entriesOf division)

variable {next : DistinctTree}

/-- The fault with which the strict policy refuses a tree reports the first conflict. -/
theorem firstConflict_of_clash? (h : base.clash? .strict next = some fault) :
    ∃ division clash, base.FirstConflict next division clash ∧ fault = clash.faultIn division := by
  have hpaths := reports_conflicts base next .paths
  have hprototypes := reports_conflicts base next .prototypes
  simp only [entriesOf] at hpaths hprototypes
  rw [clash?] at h
  cases hclash : clashAmong? .strict base.paths next.paths with
  | some clash =>
    rw [hclash] at h hpaths
    obtain ⟨hconflicts, before, after, hsplit, hbefore⟩ := hpaths
    refine ⟨.paths, clash, ⟨hconflicts, before.map (Prod.mk .paths),
      after.map (Prod.mk .paths) ++ (pathsAmong next.prototypes).map (Prod.mk .prototypes), ?_, ?_⟩,
      (Option.some.inj h).symm⟩
    · rw [places, hsplit, List.map_append, List.map_cons, List.append_assoc, List.cons_append]
    · exact fun _ _ => not_conflicts_of_mem_map hbefore
  | none =>
    rw [hclash] at h hpaths
    obtain ⟨clash, hfound, rfl⟩ := Option.map_eq_some_iff.mp h
    rw [hfound] at hprototypes
    obtain ⟨hconflicts, before, after, hsplit, hbefore⟩ := hprototypes
    refine ⟨.prototypes, clash, ⟨hconflicts, (pathsAmong next.paths).map (Prod.mk .paths) ++
      before.map (Prod.mk .prototypes), after.map (Prod.mk .prototypes), ?_, ?_⟩, rfl⟩
    · rw [places, hsplit, List.map_append, List.map_cons, List.append_assoc]
    · intro earlier other hmem
      rcases List.mem_append.mp hmem with hmem | hmem
      · exact not_conflicts_of_mem_map (fun clash _ => hpaths clash) hmem
      · exact not_conflicts_of_mem_map hbefore hmem

/-- Trees that the strict policy accepts do not conflict. -/
theorem not_conflicts_of_clash? (h : base.clash? .strict next = none) (division : Division)
    (clash : Clash) : ¬base.Conflicts next division clash := by
  have hreports := reports_conflicts base next division
  rw [clash?_eq_none.mp h division] at hreports
  exact hreports clash

end Tree

namespace MergePolicy

/-- A refused merge reports the clash of the two trees. -/
theorem mergeOnto_eq_error {policy : MergePolicy} {base : Tree} {next : DistinctTree}
    {fault : Fault} :
    policy.mergeOnto base next = .error fault ↔ base.clash? policy next = some fault := by
  rw [mergeOnto_eq]
  cases base.clash? policy next <;> simp

/-- What the strict policy merges the overriding policy merges alike. -/
theorem mergeOnto_override_of_strict {base result : Tree} {next : DistinctTree}
    (h : strict.mergeOnto base next = .ok result) : override.mergeOnto base next = .ok result := by
  obtain ⟨_, hresult⟩ := mergeOnto_eq_ok.mp h
  exact mergeOnto_eq_ok.mpr ⟨base.clash?_override next, hresult⟩

/-- What the strict policy merges onto a tree one by one the overriding policy merges alike. -/
theorem foldlM_override_of_strict {start result : Tree} {sources : List DistinctTree}
    (h : (trees sources).foldlM strict.mergeOnto start = .ok result) :
    (trees sources).foldlM override.mergeOnto start = .ok result := by
  induction sources generalizing start with
  | nil => exact h
  | cons source rest ih =>
    rw [trees_cons, List.foldlM_cons, bind_eq_ok] at h ⊢
    obtain ⟨first, hfirst, hothers⟩ := h
    exact ⟨first, mergeOnto_override_of_strict hfirst, ih hothers⟩

/-- The overriding policy merges any two trees. The strict policy refuses them exactly when they
conflict and reports the first conflict with the kinds of the two nodes there; what it merges, one
tree or a list, it merges as the overriding policy does. -/
theorem strict_refines_override (base : Tree) (next : DistinctTree) :
    (∃ result, override.mergeOnto base next = .ok result) ∧
      ((∃ fault, strict.mergeOnto base next = .error fault) ↔
        ∃ division clash, base.Conflicts next division clash) ∧
      (∀ fault, strict.mergeOnto base next = .error fault →
        ∃ division clash, base.FirstConflict next division clash ∧
          fault = .mergeConflict (division.position clash.steps) clash.existing clash.incoming) ∧
      (∀ result, strict.mergeOnto base next = .ok result →
        override.mergeOnto base next = .ok result) ∧
      (∀ (sources : List DistinctTree) (result : Tree),
        strict.merge (trees sources) = .ok result →
          override.merge (trees sources) = .ok result) := by
  have hreported : ∀ fault, strict.mergeOnto base next = .error fault →
      ∃ division clash, base.FirstConflict next division clash ∧ fault = clash.faultIn division :=
    fun fault h => Tree.firstConflict_of_clash? (mergeOnto_eq_error.mp h)
  refine ⟨?_, ?_, hreported, fun result => mergeOnto_override_of_strict,
    fun sources result => foldlM_override_of_strict⟩
  · exact ⟨base.overlay next, mergeOnto_eq_ok.mpr ⟨base.clash?_override next, rfl⟩⟩
  · constructor
    · rintro ⟨fault, h⟩
      obtain ⟨division, clash, hfirst, _⟩ := hreported fault h
      exact ⟨division, clash, hfirst.conflicts⟩
    · rintro ⟨division, clash, hconflicts⟩
      cases hclash : base.clash? .strict next with
      | none => exact absurd hconflicts (Tree.not_conflicts_of_clash? hclash division clash)
      | some fault => exact ⟨fault, mergeOnto_eq_error.mpr hclash⟩

/-- An object that extends a reference and conflicts with an override of it, listed before another
conflict, and a tree without a conflict. -/
theorem strict_refines_override_of_card :
    let page (properties : Keyed Node) : Tree := { prototypes := [("Page", .object properties)] }
    let base := page [("title", .scalar .null), ("body", .reference "Card" [("size", .scalar .null)])]
    let next := page [("body", .object [("size", .object [])]), ("title", .object [])]
    let wider := page [("body", .object [("width", .expression "props.width")])]
    let whole := page [("title", .scalar .null), ("body", .reference "Card"
      [("size", .scalar .null), ("width", .expression "props.width")])]
    let refused := Fault.mergeConflict ⟨.prototype "Page", ["body", "size"]⟩ .scalar .object
    (next.DistinctKeys ∧ wider.DistinctKeys) ∧ (∃ result, override.mergeOnto base next = .ok result) ∧
      (∃ division clash, base.Conflicts next division clash) ∧
      (∃ division clash, base.FirstConflict next division clash ∧
        refused = .mergeConflict (division.position clash.steps) clash.existing clash.incoming) ∧
      override.mergeOnto base wider = .ok whole ∧ override.merge [base, wider] = .ok whole := by
  intro page base next wider whole refused
  have hnext : next.DistinctKeys := by decide
  have hwider : wider.DistinctKeys := by decide
  obtain ⟨hmerges, hrefused, hfirst, _, hlist⟩ :=
    strict_refines_override base ⟨next, hnext⟩
  exact ⟨⟨hnext, hwider⟩, hmerges, hrefused.mp ⟨refused, rfl⟩, hfirst refused rfl,
    (strict_refines_override base ⟨wider, hwider⟩).2.2.2.1 whole rfl,
    hlist [⟨base, by decide⟩, ⟨wider, hwider⟩] whole rfl⟩

end MergePolicy

end ComponentAtlas
