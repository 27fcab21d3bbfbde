import ComponentAtlas.Proofs.MergePaths

/-!
# Conflicts of the strict policy

A conflict is a position at which both sides have nodes of different shape, while at every position
on the way to it the later node is merged into the earlier one. The strict policy refuses two trees
exactly when they have a conflict, reports the first one in the order of the later tree, and
otherwise does what the overriding policy does.
-/

namespace ComponentAtlas

/-- Whether both sides have a node at a path and the later one is merged into the earlier one. -/
def MergesAt (base next : Keyed Node) (path : List String) : Prop :=
  ∃ existing incoming, follow? base path = some existing ∧ follow? next path = some incoming ∧
    existing.kind.extendedBy incoming.kind = true

/-- What it is for two sides to conflict at a path with nodes of the given kinds. -/
structure Clash.Occurs (clash : Clash) (base next : Keyed Node) : Prop where
  existing_eq : (follow? base clash.steps).map Node.kind = some clash.existing
  incoming_eq : (follow? next clash.steps).map Node.kind = some clash.incoming
  incompatible : clash.existing.shape ≠ clash.incoming.shape
  /-- At every position on the way the later node is merged into the earlier one. -/
  merged_above : ∀ above, above ≠ [] → above <+: clash.steps → above ≠ clash.steps →
    MergesAt base next above

/-- What it is for two nodes to conflict, at their own position or below it. -/
def Clash.OccursBetween (clash : Clash) (existing incoming : Node) : Prop :=
  (clash = ⟨[], existing.kind, incoming.kind⟩ ∧ existing.kind.shape ≠ incoming.kind.shape) ∨
    (existing.kind.extendedBy incoming.kind ∧ clash.Occurs existing.children incoming.children)

/-- A path of several names goes on from the node under the first one. -/
theorem follow?_cons_of_find? {entries : Keyed Node} {key : String} {node : Node}
    (hfind : entries.find? key = some node) {rest : List String} (hrest : rest ≠ []) :
    follow? entries (key :: rest) = follow? node.children rest := by
  cases rest with
  | nil => exact absurd rfl hrest
  | cons step rest => rw [follow?, hfind, Option.bind_some]

/-- What is on the way to a path of several names is its first name and what is on the way below
it. -/
theorem forall_above_cons {q : List String → Prop} {key : String} {steps : List String} :
    (∀ above, above ≠ [] → above <+: key :: steps → above ≠ key :: steps → q above) ↔
      (steps ≠ [] → q [key]) ∧
        ∀ above, above ≠ [] → above <+: steps → above ≠ steps → q (key :: above) := by
  constructor
  · intro h
    refine ⟨fun hsteps => ?_, fun above _ hprefix hproper => ?_⟩
    · exact h [key] (List.cons_ne_nil _ _) ⟨steps, rfl⟩ (by simpa using hsteps.symm)
    · exact h (key :: above) (List.cons_ne_nil _ _) (List.cons_prefix_cons.mpr ⟨rfl, hprefix⟩)
        (by simpa using hproper)
  · rintro ⟨hhead, hbelow⟩ above hne hprefix hproper
    rcases List.prefix_cons_iff.mp hprefix with rfl | ⟨others, rfl, hothers⟩
    · exact absurd rfl hne
    · have hothersProper : others ≠ steps := by simpa using hproper
      cases others with
      | nil => exact hhead hothersProper.symm
      | cons first others => exact hbelow _ (List.cons_ne_nil _ _) hothers hothersProper

namespace Clash

variable {base next : Keyed Node} {key : String} {clash : Clash}

/-- A conflict between entries lies under a name. -/
theorem Occurs.steps_ne_nil (h : clash.Occurs base next) : clash.steps ≠ [] := by
  intro hnil
  have hexisting := h.existing_eq
  rw [hnil] at hexisting
  cases hexisting

section Below

variable {existing incoming : Node} (hbase : base.find? key = some existing)
  (hnext : next.find? key = some incoming)

include hbase hnext

/-- Two nodes are merged at a path below a name when those among their children are. -/
theorem mergesAt_cons {rest : List String} (hrest : rest ≠ []) :
    MergesAt base next (key :: rest) ↔ MergesAt existing.children incoming.children rest := by
  rw [MergesAt, follow?_cons_of_find? hbase hrest, follow?_cons_of_find? hnext hrest]
  rfl

/-- Nodes of different shape conflict at their own position. -/
theorem occurs_here (hshape : existing.kind.shape ≠ incoming.kind.shape) :
    Occurs ⟨[key], existing.kind, incoming.kind⟩ base next where
  existing_eq := congrArg (Option.map Node.kind) hbase
  incoming_eq := congrArg (Option.map Node.kind) hnext
  incompatible := hshape
  merged_above := by
    refine forall_above_cons.mpr ⟨fun hnil => absurd rfl hnil, fun above hne hprefix => ?_⟩
    exact absurd (List.prefix_nil.mp hprefix) hne

/-- Below nodes of which the later is merged into the earlier, the entries decide. -/
theorem occurs_below_iff (hsteps : clash.steps ≠ []) : (clash.under key).Occurs base next ↔
    existing.kind.extendedBy incoming.kind ∧
      clash.Occurs existing.children incoming.children := by
  have hpath : (clash.under key).steps = key :: clash.steps := rfl
  have hfollowBase := follow?_cons_of_find? hbase hsteps
  have hfollowNext := follow?_cons_of_find? hnext hsteps
  constructor
  · rintro ⟨hexisting, hincoming, hshape, habove⟩
    rw [hpath, hfollowBase] at hexisting
    rw [hpath, hfollowNext] at hincoming
    rw [hpath, forall_above_cons] at habove
    obtain ⟨old, new, hold, hnew, hext⟩ := habove.1 hsteps
    obtain rfl : existing = old := Option.some.inj (hbase.symm.trans hold)
    obtain rfl : incoming = new := Option.some.inj (hnext.symm.trans hnew)
    refine ⟨hext, hexisting, hincoming, hshape, fun above hne hprefix hproper => ?_⟩
    exact (mergesAt_cons hbase hnext hne).mp (habove.2 above hne hprefix hproper)
  · rintro ⟨hext, hexisting, hincoming, hshape, habove⟩
    constructor
    · rw [hpath, hfollowBase]
      exact hexisting
    · rw [hpath, hfollowNext]
      exact hincoming
    · exact hshape
    · rw [hpath, forall_above_cons]
      refine ⟨fun _ => ⟨existing, incoming, hbase, hnext, hext⟩, fun above hne hprefix hproper => ?_⟩
      exact (mergesAt_cons hbase hnext hne).mpr (habove above hne hprefix hproper)

end Below

/-- A conflict under a name is one between the nodes that the two sides have there. -/
theorem occurs_under_iff : (clash.under key).Occurs base next ↔
    ∃ existing incoming, base.find? key = some existing ∧ next.find? key = some incoming ∧
      clash.OccursBetween existing incoming := by
  obtain ⟨steps, oldKind, newKind⟩ := clash
  constructor
  · intro h
    cases steps with
    | nil =>
      obtain ⟨existing, hbase, rfl⟩ := Option.map_eq_some_iff.mp h.existing_eq
      obtain ⟨incoming, hnext, rfl⟩ := Option.map_eq_some_iff.mp h.incoming_eq
      exact ⟨existing, incoming, hbase, hnext, Or.inl ⟨rfl, h.incompatible⟩⟩
    | cons step rest =>
      have hsteps : step :: rest ≠ [] := List.cons_ne_nil _ _
      obtain ⟨existing, incoming, hbase, hnext, _⟩ := (forall_above_cons.mp h.merged_above).1 hsteps
      exact ⟨existing, incoming, hbase, hnext, Or.inr ((occurs_below_iff hbase hnext hsteps).mp h)⟩
  · rintro ⟨existing, incoming, hbase, hnext, ⟨hclash, hshape⟩ | hbelow⟩
    · cases hclash
      exact occurs_here hbase hnext hshape
    · exact (occurs_below_iff hbase hnext hbelow.2.steps_ne_nil).mpr hbelow

/-- Every conflict between entries is one under some name. -/
theorem Occurs.exists_under (h : clash.Occurs base next) :
    ∃ key, ∃ below : Clash, clash = below.under key := by
  obtain ⟨steps, existing, incoming⟩ := clash
  cases steps with
  | nil => exact absurd rfl h.steps_ne_nil
  | cons key rest => exact ⟨key, ⟨rest, existing, incoming⟩, rfl⟩

/-- A clash on a path below a name is a clash under that name. -/
theorem exists_under_of_mem {paths : List (List String)}
    (h : clash.steps ∈ paths.map (key :: ·)) :
    ∃ below : Clash, clash = below.under key ∧ below.steps ∈ paths := by
  obtain ⟨steps, hmem, hsteps⟩ := List.mem_map.mp h
  obtain ⟨_, existing, incoming⟩ := clash
  cases hsteps
  exact ⟨⟨steps, existing, incoming⟩, rfl, hmem⟩

section Cons

variable {node : Node} {rest : Keyed Node}

/-- A conflict under the first name is one between the nodes under this name. -/
theorem occurs_under_cons_iff {existing : Node} (hbase : base.find? key = some existing) :
    (clash.under key).Occurs base ((key, node) :: rest) ↔ clash.OccursBetween existing node := by
  rw [occurs_under_iff]
  simp [hbase]

/-- Where nothing conflicts under the first name, what conflicts is what conflicts with the rest. -/
theorem occurs_cons_iff (hnew : key ∉ rest.keys)
    (hnone : ∀ below : Clash, ¬(below.under key).Occurs base ((key, node) :: rest)) :
    clash.Occurs base ((key, node) :: rest) ↔ clash.Occurs base rest := by
  have hother : ∀ {name : String} (below : Clash), key ≠ name →
      ((below.under name).Occurs base ((key, node) :: rest) ↔
        (below.under name).Occurs base rest) := by
    intro name below hne
    rw [occurs_under_iff, occurs_under_iff, Keyed.find?_cons, if_neg hne]
  constructor
  · intro h
    obtain ⟨name, below, rfl⟩ := h.exists_under
    have hne : key ≠ name := by
      rintro rfl
      exact hnone below h
    exact (hother below hne).mp h
  · intro h
    obtain ⟨name, below, rfl⟩ := h.exists_under
    have hne : key ≠ name := by
      rintro rfl
      obtain ⟨_, _, _, hfind, _⟩ := occurs_under_iff.mp h
      exact hnew (Keyed.mem_keys_of_find? hfind)
    exact (hother below hne).mpr h

end Cons

end Clash

mutual

/-- The paths to a node and to the nodes below it, in document order. -/
def Node.paths : Node → List (List String)
  | .scalar _ | .expression _ => [[]]
  | .reference _ entries | .object entries | .directives entries => [] :: pathsAmong entries

/-- The paths to named nodes and to the nodes below them, in document order. -/
def pathsAmong : List (String × Node) → List (List String)
  | [] => []
  | (key, node) :: rest => node.paths.map (key :: ·) ++ pathsAmong rest

end

/-- The first path is that to the node itself, and those to its children follow. -/
theorem Node.paths_eq (node : Node) : node.paths = [] :: pathsAmong node.children := by
  cases node <;> rfl

/-- What is to be reported of the conflicts on a list of paths: the first one in the order of the
list, and nothing only when there is none. -/
def Reports (paths : List (List String)) (occurs : Clash → Prop) : Option Clash → Prop
  | none => ∀ clash, ¬occurs clash
  | some clash => occurs clash ∧ ∃ before after, paths = before ++ clash.steps :: after ∧
      ∀ other : Clash, other.steps ∈ before → ¬occurs other

namespace Reports

variable {paths : List (List String)} {occurs occurs' : Clash → Prop} {found : Option Clash}

/-- What is reported depends only on which conflicts there are. -/
theorem congr (h : Reports paths occurs found) (hiff : ∀ clash, occurs clash ↔ occurs' clash) :
    Reports paths occurs' found := by
  obtain rfl : occurs = occurs' := funext fun clash => propext (hiff clash)
  exact h

/-- Paths without a conflict may be searched first. -/
theorem skip (h : Reports paths occurs found) {skipped : List (List String)}
    (hskipped : ∀ clash : Clash, clash.steps ∈ skipped → ¬occurs clash) :
    Reports (skipped ++ paths) occurs found := by
  cases found with
  | none => exact h
  | some clash =>
    obtain ⟨hoccurs, before, after, rfl, hbefore⟩ := h
    refine ⟨hoccurs, skipped ++ before, after, (List.append_assoc _ _ _).symm, ?_⟩
    intro other hother
    rcases List.mem_append.mp hother with hmem | hmem
    · exact hskipped other hmem
    · exact hbefore other hmem

/-- A conflict found below a name is found before what follows that name. -/
theorem under {clash : Clash} (h : Reports paths occurs (some clash)) {key : String}
    (hiff : ∀ below : Clash, occurs' (below.under key) ↔ occurs below)
    (rest : List (List String)) :
    Reports (paths.map (key :: ·) ++ rest) occurs' (some (clash.under key)) := by
  obtain ⟨hoccurs, before, after, rfl, hbefore⟩ := h
  refine ⟨(hiff clash).mpr hoccurs, before.map (key :: ·), after.map (key :: ·) ++ rest, ?_, ?_⟩
  · simp [Clash.under]
  · intro other hother hoccurs'
    obtain ⟨below, rfl, hmem⟩ := Clash.exists_under_of_mem hother
    exact hbefore below hmem ((hiff below).mp hoccurs')

end Reports

/-- The strict policy reports the first conflict among entries when it does so between the nodes
under each name. -/
theorem reports_among_of_nodes {base next : Keyed Node} (hnext : next.Distinct)
    (hnodes : ∀ entry ∈ next, ∀ existing : Node,
      Reports entry.2.paths (·.OccursBetween existing entry.2) (existing.clash? .strict entry.2)) :
    Reports (pathsAmong next) (·.Occurs base next) (clashAmong? .strict base next) := by
  induction next with
  | nil =>
    intro clash h
    obtain ⟨key, below, rfl⟩ := h.exists_under
    obtain ⟨_, _, _, hfind, _⟩ := Clash.occurs_under_iff.mp h
    cases hfind
  | cons entry rest ih =>
    obtain ⟨key, node⟩ := entry
    obtain ⟨hnew, hrest⟩ := Keyed.distinct_cons.mp hnext
    obtain ⟨hnode, hothers⟩ := List.forall_mem_cons.mp hnodes
    have hreports := ih hrest hothers
    -- Without a conflict under the first name the search goes on with the rest.
    have hgoOn : (∀ below : Clash, ¬(below.under key).Occurs base ((key, node) :: rest)) →
        Reports (pathsAmong ((key, node) :: rest)) (·.Occurs base ((key, node) :: rest))
          (clashAmong? .strict base rest) := by
      intro hnone
      refine (hreports.congr fun clash => (Clash.occurs_cons_iff hnew hnone).symm).skip ?_
      intro clash hmem hoccurs
      obtain ⟨below, rfl, _⟩ := Clash.exists_under_of_mem hmem
      exact hnone below hoccurs
    rw [clashAmong?]
    cases hbase : base.find? key with
    | none =>
      refine hgoOn fun below hoccurs => ?_
      obtain ⟨_, _, hfind, _⟩ := Clash.occurs_under_iff.mp hoccurs
      rw [hbase] at hfind
      cases hfind
    | some existing =>
      have hiff : ∀ below : Clash, (below.under key).Occurs base ((key, node) :: rest) ↔
          below.OccursBetween existing node := fun _ => Clash.occurs_under_cons_iff hbase
      have hhere := hnode existing
      cases hclash : existing.clash? .strict node with
      | some clash =>
        rw [hclash] at hhere
        simp only [hclash, pathsAmong]
        exact hhere.under hiff _
      | none =>
        rw [hclash] at hhere
        simp only [hclash]
        exact hgoOn fun below hoccurs => hhere below ((hiff below).mp hoccurs)

/-- The strict policy reports the first conflict between two nodes. -/
theorem Node.reports {incoming : Node} (h : incoming.DistinctKeys) (existing : Node) :
    Reports incoming.paths (·.OccursBetween existing incoming)
      (existing.clash? .strict incoming) := by
  induction incoming using Node.inductionOnChildren generalizing existing with
  | step incoming ih =>
    have hamong : Reports (pathsAmong incoming.children)
        (·.Occurs existing.children incoming.children)
        (clashAmong? .strict existing.children incoming.children) :=
      reports_among_of_nodes h.children.1 fun entry hentry =>
        ih entry hentry (everywhereAmong_iff.mp h.children.2 entry hentry)
    rw [Node.clash?_eq, Node.paths_eq]
    by_cases hshape : existing.kind.shape = incoming.kind.shape
    · rw [if_pos (MergePolicy.strict_allows.mpr hshape)]
      by_cases hext : existing.kind.extendedBy incoming.kind = true
      · have hiff : ∀ clash : Clash, clash.Occurs existing.children incoming.children ↔
            clash.OccursBetween existing incoming := by
          intro clash
          simp [Clash.OccursBetween, hshape, hext]
        rw [if_pos hext, ← List.singleton_append]
        refine (hamong.congr hiff).skip ?_
        intro clash hmem hoccurs
        exact ((hiff clash).mpr hoccurs).steps_ne_nil (List.mem_singleton.mp hmem)
      · rw [if_neg hext]
        rintro clash (⟨_, hne⟩ | ⟨hmerges, _⟩)
        · exact hne hshape
        · exact hext hmerges
    · rw [if_neg (mt MergePolicy.strict_allows.mp hshape)]
      refine ⟨Or.inl ⟨rfl, hshape⟩, [], _, rfl, ?_⟩
      exact fun _ hmem => absurd hmem List.not_mem_nil

/-- The strict policy reports the first conflict among entries. -/
theorem reports_among {next : Keyed Node} (h : DistinctKeysAmong next) (base : Keyed Node) :
    Reports (pathsAmong next) (·.Occurs base next) (clashAmong? .strict base next) :=
  reports_among_of_nodes h.1 fun entry hentry existing =>
    Node.reports (everywhereAmong_iff.mp h.2 entry hentry) existing

end ComponentAtlas
