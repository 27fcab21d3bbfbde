import ComponentAtlas.Composition
import ComponentAtlas.Proofs.KeyedLists

/-!
# Marks of resolved compositions

Expansion hands the names expanded so far from one position to the next, in the order in which the
outline lists them. So what becomes of a position is a function of its name, its depth and the
positions listed before it, and the proof follows the same order: every position is marked rightly
with respect to the names expanded at earlier positions, and expansion returns just these names.
-/

namespace ComponentAtlas

namespace Tree

variable {tree : Tree} {name : String} {node : Node} {visited : List String}

/-- A name without a prototype is left unresolved, whatever has been expanded. -/
theorem expand_of_missing (hfind : tree.prototypes.find? name = none) (levels : Nat)
    (visited : List String) (role : Option String) :
    tree.expand levels visited name role = (.leaf name role .unresolved, visited) := by
  cases levels <;> simp [expand, hfind]

/-- A prototype is left at the depth limit when there are no levels left. -/
theorem expand_zero (hfind : tree.prototypes.find? name = some node) (visited : List String)
    (role : Option String) :
    tree.expand 0 visited name role = (.leaf name role .depthLimit, visited) := by
  simp [expand, hfind]

/-- A prototype that has been expanded before is only referred to. -/
theorem expand_of_mem (hfind : tree.prototypes.find? name = some node) (hmem : name ∈ visited)
    (levels : Nat) (role : Option String) :
    tree.expand (levels + 1) visited name role = (.leaf name role .revisited, visited) := by
  simp [expand, hfind, hmem]

/-- A prototype that is new is expanded, and its parts after it, one after the other. -/
theorem expand_of_not_mem (hfind : tree.prototypes.find? name = some node) (hnew : name ∉ visited)
    (levels : Nat) (role : Option String) :
    let outcome := threadMap (fun seen part =>
      tree.expand levels seen part.prototype (some part.role)) (name :: visited) node.anatomy.parts
    tree.expand (levels + 1) visited name role =
      (.position name role .expanded node.anatomy.parent outcome.1, outcome.2) := by
  rw [expand]
  simp only [hfind, if_neg hnew]

end Tree

namespace Composition

/-- The prototype at the position. -/
def prototype : Composition → String
  | position prototype _ _ _ _ => prototype

/-- The role at the position; the root has none. -/
def role : Composition → Option String
  | position _ role _ _ _ => role

/-- What became of the position. -/
def status : Composition → Expansion
  | position _ _ status _ _ => status

/-- The prototype that the one at the position extends. -/
def parent : Composition → Option String
  | position _ _ _ parent _ => parent

/-- The positions of the parts. -/
def parts : Composition → List Composition
  | position _ _ _ _ parts => parts

mutual

/-- The positions in pre-order, each with its depth, when the first has the given depth. -/
def positions (depth : Nat) : Composition → List (Nat × Composition)
  | position prototype role status parent parts =>
    (depth, position prototype role status parent parts) :: positionsAmong (depth + 1) parts

/-- The positions of several compositions in pre-order. -/
def positionsAmong (depth : Nat) : List Composition → List (Nat × Composition)
  | [] => []
  | part :: rest => part.positions depth ++ positionsAmong depth rest

end

/-- The names expanded at the given positions, in order. -/
def expandedNames (positions : List (Nat × Composition)) : List String :=
  (positions.filter fun position => position.2.status = .expanded).map fun position =>
    position.2.prototype

/-- Nothing is expanded where there is no position. -/
@[simp] theorem expandedNames_nil : expandedNames [] = [] := rfl

/-- The names expanded in two lists of positions are those of the one before those of the other. -/
theorem expandedNames_append (first second : List (Nat × Composition)) :
    expandedNames (first ++ second) = expandedNames first ++ expandedNames second := by
  rw [expandedNames, List.filter_append, List.map_append]
  rfl

/-- A name is expanded when it is the prototype at an expanded position. -/
theorem mem_expandedNames {positions : List (Nat × Composition)} {name : String} :
    name ∈ expandedNames positions ↔
      ∃ position ∈ positions, position.2.status = .expanded ∧ position.2.prototype = name := by
  simp [expandedNames, and_assoc]

end Composition

open ComponentAtlas.Composition (expandedNames expandedNames_append positionsAmong)

/-- What becomes of a position, given its depth, its name and the names expanded before it. -/
def Tree.statusAt (tree : Tree) (maxDepth : Nat) (expanded : List String) (depth : Nat)
    (name : String) : Expansion :=
  if (tree.prototypes.find? name).isNone then .unresolved
  else if maxDepth < depth then .depthLimit
  else if name ∈ expanded then .revisited
  else .expanded

/-- The names and roles of the parts of a prototype, as its outline lists them. -/
def Anatomy.outlined (anatomy : Anatomy) : List (Option String × String) :=
  anatomy.parts.map fun part => (some part.role, part.prototype)

/-- Whether an expanded position shows the anatomy of its prototype and any other shows nothing. -/
def Tree.Shows (tree : Tree) (position : Composition) : Prop :=
  (position.status = .expanded → ∃ node, tree.prototypes.find? position.prototype = some node ∧
    position.parts.map (fun part => (part.role, part.prototype)) = node.anatomy.outlined ∧
    position.parent = node.anatomy.parent) ∧
  (position.status ≠ .expanded → position.parts = [] ∧ position.parent = none)

/-- Whether the listed positions are marked rightly, given the names expanded before them. -/
def Tree.Marked (tree : Tree) (maxDepth : Nat) : List String → List (Nat × Composition) → Prop
  | _, [] => True
  | expanded, (depth, position) :: rest =>
    position.status = tree.statusAt maxDepth expanded depth position.prototype ∧
      tree.Shows position ∧
      tree.Marked maxDepth ((expandedNames [(depth, position)]).reverse ++ expanded) rest

variable {tree : Tree} {maxDepth : Nat}

/-- Each status belongs to one of four cases, of which exactly one holds. -/
theorem Tree.statusAt_cases (tree : Tree) (maxDepth : Nat) (expanded : List String)
    (depth : Nat) (name : String) :
    let status := tree.statusAt maxDepth expanded depth name
    (status = .unresolved ↔ name ∉ tree.prototypeNames) ∧
      (status = .depthLimit ↔ name ∈ tree.prototypeNames ∧ maxDepth < depth) ∧
      (status = .revisited ↔ name ∈ tree.prototypeNames ∧ depth ≤ maxDepth ∧ name ∈ expanded) ∧
      (status = .expanded ↔ name ∈ tree.prototypeNames ∧ depth ≤ maxDepth ∧ name ∉ expanded) := by
  have hknown : (tree.prototypes.find? name).isNone ↔ name ∉ tree.prototypeNames := by
    rw [Option.isNone_iff_eq_none]
    exact Keyed.find?_eq_none
  simp only [statusAt, hknown]
  by_cases hname : name ∈ tree.prototypeNames
  · by_cases hdepth : maxDepth < depth
    · simp [hname, hdepth, Nat.not_le.mpr hdepth]
    · by_cases hmem : name ∈ expanded <;> simp [hname, hdepth, Nat.not_lt.mp hdepth, hmem]
  · simp [hname]

/-- Positions are marked rightly when those up to some point are and the others are after them. -/
theorem Tree.marked_append {expanded : List String} {first second : List (Nat × Composition)} :
    tree.Marked maxDepth expanded (first ++ second) ↔ tree.Marked maxDepth expanded first ∧
      tree.Marked maxDepth ((expandedNames first).reverse ++ expanded) second := by
  induction first generalizing expanded with
  | nil => simp [Marked]
  | cons head rest ih =>
    obtain ⟨depth, position⟩ := head
    have hnames : (expandedNames ((depth, position) :: rest)).reverse ++ expanded =
        (expandedNames rest).reverse ++
          ((expandedNames [(depth, position)]).reverse ++ expanded) := by
      rw [← List.singleton_append, expandedNames_append, List.reverse_append, List.append_assoc]
    simp only [List.cons_append, Marked, ih, hnames, and_assoc]

/-- What one expansion does: it keeps name and role, marks every position of its outline rightly
and returns the names expanded there after those expanded before. -/
structure Tree.ExpandsTo (tree : Tree) (maxDepth depth : Nat) (visited : List String)
    (name : String) (role : Option String) (outcome : Composition × List String) : Prop where
  prototype_eq : outcome.1.prototype = name
  role_eq : outcome.1.role = role
  visited_eq : outcome.2 = (expandedNames (outcome.1.positions depth)).reverse ++ visited
  marked : tree.Marked maxDepth visited (outcome.1.positions depth)

/-- A position whose parts are not shown is marked rightly when its status is the right one. -/
theorem Tree.expandsTo_leaf {depth : Nat} {visited : List String} {name : String}
    {role : Option String} {status : Expansion} (hne : status ≠ .expanded)
    (hstatus : tree.statusAt maxDepth visited depth name = status) :
    tree.ExpandsTo maxDepth depth visited name role (.leaf name role status, visited) := by
  constructor
  · rfl
  · rfl
  · simp [Composition.leaf, Composition.positions, positionsAmong, expandedNames,
      Composition.status, hne]
  · refine ⟨hstatus.symm, ⟨fun h => absurd h hne, fun _ => ⟨rfl, rfl⟩⟩, trivial⟩

/-- Expanding parts one after the other does to all of them what expansion does to each. -/
theorem Tree.threadMap_expandsTo {levels depth : Nat}
    (hstep : ∀ visited name role, tree.ExpandsTo maxDepth depth visited name role
      (tree.expand levels visited name role)) (visited : List String) (entries : List Part) :
    let outcome := threadMap (fun seen part =>
      tree.expand levels seen part.prototype (some part.role)) visited entries
    outcome.1.map (fun part => (part.role, part.prototype)) =
        entries.map (fun part => (some part.role, part.prototype)) ∧
      outcome.2 = (expandedNames (positionsAmong depth outcome.1)).reverse ++ visited ∧
      tree.Marked maxDepth visited (positionsAmong depth outcome.1) := by
  induction entries generalizing visited with
  | nil => simp [threadMap, positionsAmong, Marked]
  | cons entry rest ih =>
    have hfirst := hstep visited entry.prototype (some entry.role)
    obtain ⟨hmap, hnames, hmarked⟩ :=
      ih (tree.expand levels visited entry.prototype (some entry.role)).2
    refine ⟨?_, ?_, ?_⟩
    · simp only [threadMap, List.map_cons, hmap, hfirst.prototype_eq, hfirst.role_eq]
    · simp only [threadMap, positionsAmong]
      rw [hnames, expandedNames_append, List.reverse_append, List.append_assoc, ← hfirst.visited_eq]
    · simp only [threadMap, positionsAmong]
      rw [Tree.marked_append, ← hfirst.visited_eq]
      exact ⟨hfirst.marked, hmarked⟩

/-- A name without a prototype is marked rightly at every depth. -/
theorem Tree.expandsTo_of_missing {name : String} (hfind : tree.prototypes.find? name = none)
    (levels depth : Nat) (visited : List String) (role : Option String) :
    tree.ExpandsTo maxDepth depth visited name role (tree.expand levels visited name role) := by
  rw [expand_of_missing hfind]
  exact expandsTo_leaf (by decide) (by simp [statusAt, hfind])

/-- Every expansion marks its outline rightly. The induction is on the levels to go, of which there
are as many as the depth leaves. -/
theorem Tree.expand_expandsTo {levels depth : Nat} (hdepth : levels + depth = maxDepth + 1)
    (visited : List String) (name : String) (role : Option String) :
    tree.ExpandsTo maxDepth depth visited name role (tree.expand levels visited name role) := by
  induction levels generalizing depth visited name role with
  | zero =>
    cases hfind : tree.prototypes.find? name with
    | none => exact expandsTo_of_missing hfind 0 depth visited role
    | some node =>
      have hbelow : maxDepth < depth := by omega
      rw [expand_zero hfind]
      exact expandsTo_leaf (by decide) (by simp [statusAt, hfind, hbelow])
  | succ levels ih =>
    cases hfind : tree.prototypes.find? name with
    | none => exact expandsTo_of_missing hfind (levels + 1) depth visited role
    | some node =>
      have hwithin : ¬maxDepth < depth := by omega
      by_cases hmem : name ∈ visited
      · rw [expand_of_mem hfind hmem]
        exact expandsTo_leaf (by decide) (by simp [statusAt, hfind, hwithin, hmem])
      · have hstep : ∀ visited name role, tree.ExpandsTo maxDepth (depth + 1) visited name role
            (tree.expand levels visited name role) := ih (by omega)
        obtain ⟨hmap, hnames, hmarked⟩ :=
          threadMap_expandsTo hstep (name :: visited) node.anatomy.parts
        have hstatus : tree.statusAt maxDepth visited depth name = .expanded := by
          simp [statusAt, hfind, hwithin, hmem]
        rw [expand_of_not_mem hfind hmem]
        constructor
        · rfl
        · rfl
        · rw [hnames]
          simp [Composition.positions, expandedNames, Composition.status, Composition.prototype]
        · refine ⟨hstatus.symm, ⟨fun _ => ⟨node, hfind, hmap, rfl⟩, fun h => absurd rfl h⟩, ?_⟩
          exact hmarked

/-- Rightly marked positions expand no name twice, and none of those expanded before them. -/
theorem Tree.Marked.nodup {expanded : List String} {positions : List (Nat × Composition)}
    (h : tree.Marked maxDepth expanded positions) (hexpanded : expanded.Nodup) :
    ((expandedNames positions).reverse ++ expanded).Nodup := by
  induction positions generalizing expanded with
  | nil => exact hexpanded
  | cons head rest ih =>
    obtain ⟨depth, here⟩ := head
    obtain ⟨hstatus, _, hrest⟩ := h
    have hnext : ((expandedNames [(depth, here)]).reverse ++ expanded).Nodup := by
      by_cases heq : here.status = .expanded
      · have hcases := statusAt_cases tree maxDepth expanded depth here.prototype
        have hnew : here.prototype ∉ expanded := (hcases.2.2.2.mp (hstatus ▸ heq)).2.2
        simpa [expandedNames, heq] using ⟨hnew, hexpanded⟩
      · simpa [expandedNames, heq] using hexpanded
    rw [← List.singleton_append, expandedNames_append, List.reverse_append, List.append_assoc]
    exact ih hrest hnext

/-- What the mark of a position says about the positions listed before it. -/
structure Tree.MarkedAfter (tree : Tree) (maxDepth : Nat) (before : List (Nat × Composition))
    (depth : Nat) (here : Composition) : Prop where
  unresolved_iff : here.status = .unresolved ↔ here.prototype ∉ tree.prototypeNames
  depthLimit_iff : here.status = .depthLimit ↔
    here.prototype ∈ tree.prototypeNames ∧ maxDepth < depth
  revisited_iff : here.status = .revisited ↔
    here.prototype ∈ tree.prototypeNames ∧ depth ≤ maxDepth ∧
      ∃ earlier ∈ before, earlier.2.status = .expanded ∧ earlier.2.prototype = here.prototype
  expanded_iff : here.status = .expanded ↔
    here.prototype ∈ tree.prototypeNames ∧ depth ≤ maxDepth ∧
      ¬∃ earlier ∈ before, earlier.2.status = .expanded ∧ earlier.2.prototype = here.prototype
  /-- Parts and parent are those of the anatomy at an expanded position, and absent elsewhere. -/
  shows : tree.Shows here

/-- A position in a rightly marked list is marked rightly after the positions before it. -/
theorem Tree.Marked.markedAfter {before after : List (Nat × Composition)} {depth : Nat}
    {here : Composition} (h : tree.Marked maxDepth [] (before ++ (depth, here) :: after)) :
    tree.MarkedAfter maxDepth before depth here := by
  obtain ⟨_, hstatus, hshows, _⟩ := Tree.marked_append.mp h
  have hearlier : here.prototype ∈ (expandedNames before).reverse ++ [] ↔
      ∃ earlier ∈ before, earlier.2.status = .expanded ∧
        earlier.2.prototype = here.prototype := by
    rw [List.append_nil, List.mem_reverse, Composition.mem_expandedNames]
  have hcases := statusAt_cases tree maxDepth ((expandedNames before).reverse ++ []) depth
    here.prototype
  rw [hearlier] at hcases
  rw [← hstatus] at hcases
  exact ⟨hcases.1, hcases.2.1, hcases.2.2.1, hcases.2.2.2, hshows⟩

/-- The composition of any prototype of a tree is found, and the mark of each of its positions is
determined by the name, the depth and the expanded positions listed before it: it is the first
position within the budget at which a name is expanded. So no name is expanded twice. -/
theorem Tree.resolve_marking (tree : Tree) {name : String} (hname : name ∈ tree.prototypeNames)
    (maxDepth : Nat) :
    ∃ root, tree.resolve name maxDepth = .ok root ∧ root.prototype = name ∧ root.role = none ∧
      root.status = .expanded ∧
      (∀ before depth here after, root.positions 0 = before ++ (depth, here) :: after →
        tree.MarkedAfter maxDepth before depth here) ∧
      (expandedNames (root.positions 0)).Nodup := by
  obtain ⟨node, hfind⟩ := Option.isSome_iff_exists.mp (Keyed.find?_isSome.mpr hname)
  have hexpands : tree.ExpandsTo maxDepth 0 [] name none
      (tree.expand (maxDepth + 1) [] name none) :=
    expand_expandsTo (Nat.add_zero _) [] name none
  refine ⟨(tree.expand (maxDepth + 1) [] name none).1, ?_, hexpands.prototype_eq,
    hexpands.role_eq, ?_, fun before depth here after hsplit => ?_, ?_⟩
  · simp only [resolve, prototype, hfind]
    rfl
  · rw [expand_of_not_mem hfind List.not_mem_nil]
    rfl
  · exact Marked.markedAfter (hsplit ▸ hexpands.marked)
  · have hnodup := hexpands.marked.nodup List.nodup_nil
    rw [List.append_nil] at hnodup
    exact (List.reverse_perm _).nodup_iff.mp hnodup

/-- Two prototypes that refer to each other, one of them also to a missing one. -/
theorem Tree.resolve_marking_of_circle :
    let tree : Tree :=
      { prototypes := [("Page", .object [("menu", .reference "Menu" [])]),
          ("Menu", .object [("page", .reference "Page" []), ("icon", .reference "Icon" [])])] }
    "Page" ∈ tree.prototypeNames ∧ ∃ root, tree.resolve "Page" 3 = .ok root ∧
      root.prototype = "Page" ∧ root.role = none ∧ root.status = .expanded ∧
      (∀ before depth here after, root.positions 0 = before ++ (depth, here) :: after →
        tree.MarkedAfter 3 before depth here) ∧
      (expandedNames (root.positions 0)).Nodup :=
  ⟨by decide, resolve_marking _ (by decide) 3⟩

end ComponentAtlas
