import ComponentAtlas.Proofs.InstanceAddresses
import ComponentAtlas.Proofs.WellNamed

/-!
# Naming faults

The address of a position in a tree consists of the number of its division, where the paths come
before the prototypes, and the numbers of the entries that lead to it. So document order is the
lexicographic order of addresses. The check of names visits all positions in this order and reports
the first one that does not bear the name that it must.
-/

namespace ComponentAtlas

/-- A named position of a tree: the path to it, with the keys as they are written, and its node. -/
structure Position where
  path : PropertyPath
  node : Node

namespace Position

/-- Whether a position bears a name that it must not: a prototype the empty name, any other position
a key that is empty, contains the separator, or is the reserved one without directives below it or
another one with directives below it. -/
def Misnamed (position : Position) : Prop :=
  match position.path.segments.getLast? with
  | none => position.path.root = .prototype ""
  | some key => key = "" ∨ pathSeparator ∈ key.toList ∨
      ¬(key = metaKey ↔ position.node.kind = .directives)

/-- Whether a position bears a name that it may bear. -/
def fits (position : Position) : Bool :=
  match position.path.segments.getLast? with
  | none => position.path.root ≠ .prototype ""
  | some key => fitsKey key position.node

/-- The path of a position, if it is misnamed. -/
def fault? (position : Position) : Option PropertyPath :=
  if position.fits then none else some position.path

/-- The position of a child is misnamed when its key does not fit it. -/
theorem fault?_child (parent : PropertyPath) (key : String) (node : Node) :
    fault? ⟨parent.child key, node⟩ =
      if fitsKey key node then none else some (parent.child key) := by
  simp [fault?, fits, PropertyPath.child]

/-- The position of a prototype is misnamed when it has the empty name. -/
theorem fault?_ofPrototype (name : String) (node : Node) :
    fault? ⟨.ofPrototype name, node⟩ = if name = "" then some (.ofPrototype name) else none := by
  simp [fault?, fits, PropertyPath.ofPrototype]

/-- A key does not fit when it is empty, contains the separator, or is the reserved one without
directives or another one with directives. -/
theorem not_fitsKey_iff {key : String} {node : Node} : ¬fitsKey key node ↔
    key = "" ∨ pathSeparator ∈ key.toList ∨ ¬(key = metaKey ↔ node.kind = .directives) := by
  simp only [fitsKey, Bool.and_eq_true, decide_eq_true_eq, Bool.not_eq_true',
    List.contains_eq_mem, decide_eq_false_iff_not, not_and_or, not_not, or_assoc]
  rw [beq_iff_eq, Bool.eq_iff_iff, beq_iff_eq, beq_iff_eq]

/-- A position bears a name that it may not bear exactly when it is misnamed. -/
theorem not_fits_iff {position : Position} : ¬position.fits ↔ position.Misnamed := by
  rw [fits, Misnamed]
  cases position.path.segments.getLast? with
  | none => simp
  | some key => exact not_fitsKey_iff

/-- A position has no fault exactly when it is not misnamed. -/
theorem fault?_eq_none {position : Position} : position.fault? = none ↔ ¬position.Misnamed := by
  rw [← not_fits_iff, fault?]
  simp

/-- A position has a fault exactly when it is misnamed, and the fault is its path. -/
theorem fault?_eq_some {position : Position} {path : PropertyPath} :
    position.fault? = some path ↔ position.Misnamed ∧ path = position.path := by
  rw [← not_fits_iff, fault?]
  cases position.fits with
  | true => simp
  | false => simp [@eq_comm _ path]

end Position

/-- The position at an address in a node that stands at a given path. -/
def Node.positionAt? (path : PropertyPath) : Node → List Nat → Option Position
  | node, [] => some ⟨path, node⟩
  | node, index :: rest => node.children[index]?.bind fun entry =>
      entry.2.positionAt? (path.child entry.1) rest

/-- The position at an address among named nodes, each of which stands at a path of its own. -/
def positionAmong? (pathOf : String → PropertyPath) (entries : List (String × Node)) :
    List Nat → Option Position
  | [] => none
  | index :: rest => entries[index]?.bind fun entry => entry.2.positionAt? (pathOf entry.1) rest

/-- The position at an address in a tree. -/
def Tree.positionAt? (tree : Tree) : List Nat → Option Position
  | 0 :: rest => positionAmong? PropertyPath.ofPaths.child tree.paths rest
  | 1 :: rest => positionAmong? .ofPrototype tree.prototypes rest
  | _ => none

/-- The addresses of all positions in a tree, in document order. -/
def Tree.addresses (tree : Tree) : List (List Nat) :=
  (addressesAmong 0 tree.paths).map (0 :: ·) ++ (addressesAmong 0 tree.prototypes).map (1 :: ·)

/-- The positions at and below a node are at its addresses. -/
theorem Node.mem_addresses_of_positionAt? {node : Node} {path : PropertyPath} {address : List Nat}
    {position : Position} (h : node.positionAt? path address = some position) :
    address ∈ node.addresses := by
  induction address generalizing node path with
  | nil => simp [addresses_eq]
  | cons index rest ih =>
    obtain ⟨entry, hentry, hrest⟩ := Option.bind_eq_some_iff.mp h
    have hmem := mem_addressesAmong.mpr ⟨index, rest, entry, rfl, hentry, ih hrest⟩
    rw [addresses_eq]
    exact List.mem_cons_of_mem _ hmem

/-- The positions among entries are at their addresses. -/
theorem mem_addressesAmong_of_positionAmong? {pathOf : String → PropertyPath}
    {entries : List (String × Node)} {address : List Nat} {position : Position}
    (h : positionAmong? pathOf entries address = some position) :
    address ∈ addressesAmong 0 entries := by
  cases address with
  | nil => cases h
  | cons index rest =>
    obtain ⟨entry, hentry, hrest⟩ := Option.bind_eq_some_iff.mp h
    exact Node.mem_addressesAmong.mpr
      ⟨index, rest, entry, rfl, hentry, Node.mem_addresses_of_positionAt? hrest⟩

/-- No position of a tree is left out. -/
theorem Tree.mem_addresses_of_positionAt? {tree : Tree} {address : List Nat} {position : Position}
    (h : tree.positionAt? address = some position) : address ∈ tree.addresses := by
  rw [addresses, List.mem_append]
  match address with
  | 0 :: rest => exact .inl (List.mem_map_of_mem (mem_addressesAmong_of_positionAmong? h))
  | 1 :: rest => exact .inr (List.mem_map_of_mem (mem_addressesAmong_of_positionAmong? h))

/-- The addresses of a tree are in lexicographic order. -/
theorem Tree.pairwise_addresses (tree : Tree) :
    tree.addresses.Pairwise (List.Lex (· < ·)) := by
  have hdivision : ∀ (number : Nat) (entries : List (String × Node)),
      ((addressesAmong 0 entries).map (number :: ·)).Pairwise (List.Lex (· < ·)) := by
    intro number entries
    have hentries := Node.pairwise_addressesAmong
      (fun entry (_ : entry ∈ entries) => Node.pairwise_addresses entry.2) 0
    exact List.pairwise_map.mpr (hentries.imp .cons)
  refine List.pairwise_append.mpr
    ⟨hdivision 0 _, hdivision 1 _, fun first hfirst second hsecond => ?_⟩
  obtain ⟨_, -, rfl⟩ := List.mem_map.mp hfirst
  obtain ⟨_, -, rfl⟩ := List.mem_map.mp hsecond
  exact .rel Nat.zero_lt_one

/-- A search finds the same first result when it finds the same at every item. -/
theorem findSome?_congr {α β : Type} {f g : α → Option β} {items : List α}
    (h : ∀ item ∈ items, f item = g item) : items.findSome? f = items.findSome? g := by
  rw [← List.head?_filterMap, ← List.head?_filterMap, List.filterMap_congr h]

/-- A search through all places at which something may be found, in ascending order, finds what is
at the first of them. -/
theorem findSome?_eq_some_iff_first {α β : Type} {before : α → α → Prop} {places : List α}
    {found : α → Option β} (hirrefl : ∀ place, ¬before place place)
    (hasymm : ∀ {place other}, before place other → ¬before other place)
    (hplaces : places.Pairwise before) (hcomplete : ∀ place, found place ≠ none → place ∈ places)
    {result : β} : places.findSome? found = some result ↔
      ∃ place, found place = some result ∧ ∀ other, before other place → found other = none := by
  constructor
  · intro h
    obtain ⟨earlier, place, later, rfl, hplace, hearlier⟩ := List.findSome?_eq_some_iff.mp h
    refine ⟨place, hplace, fun other hother => ?_⟩
    by_contra hfound
    obtain ⟨-, hlater, -⟩ := List.pairwise_append.mp hplaces
    rcases List.mem_append.mp (hcomplete other hfound) with hmem | hmem
    · exact hfound (hearlier other hmem)
    · rcases List.mem_cons.mp hmem with rfl | hmem
      · exact hirrefl other hother
      · exact hasymm hother ((List.pairwise_cons.mp hlater).1 other hmem)
  · rintro ⟨place, hplace, hfirst⟩
    obtain ⟨earlier, later, rfl⟩ := List.append_of_mem (hcomplete place (by simp [hplace]))
    obtain ⟨-, -, hbefore⟩ := List.pairwise_append.mp hplaces
    exact List.findSome?_eq_some_iff.mpr ⟨earlier, place, later, rfl, hplace,
      fun other hother => hfirst other (hbefore other hother place List.mem_cons_self)⟩

/-- A search through named nodes and all nodes below them searches them one after another. -/
theorem findSome?_addressesAmong {α : Type} {found : List Nat → Option α}
    {foundIn : String × Node → List Nat → Option α} {entries : List (String × Node)} {index : Nat}
    (h : ∀ number entry, entries[number]? = some entry →
      ∀ rest, found ((index + number) :: rest) = foundIn entry rest) :
    (addressesAmong index entries).findSome? found =
      entries.findSome? fun entry => entry.2.addresses.findSome? (foundIn entry) := by
  induction entries generalizing index with
  | nil => rfl
  | cons entry rest ih =>
    have hhead : found ∘ (index :: ·) = foundIn entry := funext fun address => h 0 entry rfl address
    have htail : ∀ number other, rest[number]? = some other →
        ∀ address, found ((index + 1 + number) :: address) = foundIn other address := by
      intro number other hother address
      rw [Nat.add_assoc, Nat.add_comm 1]
      exact h (number + 1) other hother address
    rw [addressesAmong, List.findSome?_append, List.findSome?_map, hhead, ih htail,
      List.findSome?_cons]
    cases entry.2.addresses.findSome? (foundIn entry) <;> rfl

/-- The fault among named nodes is the first of those at and below each of them. -/
theorem firstFaultAmong?_eq_findSome? (parent : PropertyPath) (entries : List (String × Node)) :
    firstFaultAmong? parent entries = entries.findSome? fun entry =>
      (Position.fault? ⟨parent.child entry.1, entry.2⟩).or
        (entry.2.firstFault? (parent.child entry.1)) := by
  induction entries with
  | nil => rfl
  | cons entry rest ih =>
    obtain ⟨key, node⟩ := entry
    rw [firstFaultAmong?, List.findSome?_cons, Position.fault?_child, ← ih]
    by_cases hfits : fitsKey key node
    · rw [if_pos hfits, if_pos hfits, Option.none_or]
      cases node.firstFault? _ <;> rfl
    · rw [if_neg hfits, if_neg hfits, Option.some_or]

/-- Prototypes are checked one after the other, each before what is below it. -/
theorem firstPrototypeFault?_eq_findSome? (entries : List (String × Node)) :
    Tree.firstPrototypeFault? entries = entries.findSome? fun entry =>
      (Position.fault? ⟨.ofPrototype entry.1, entry.2⟩).or
        (entry.2.firstFault? (.ofPrototype entry.1)) := by
  induction entries with
  | nil => rfl
  | cons entry rest ih =>
    obtain ⟨name, node⟩ := entry
    rw [Tree.firstPrototypeFault?, List.findSome?_cons, Position.fault?_ofPrototype, ← ih]
    by_cases hname : name = ""
    · rw [if_pos hname, if_pos hname, Option.some_or]
    · rw [if_neg hname, if_neg hname, Option.none_or]
      cases node.firstFault? _ <;> rfl

/-- The first fault at the addresses of a node is its own or else the first one below it. -/
theorem Node.findSome?_addresses (node : Node) (path : PropertyPath) :
    (node.addresses.findSome? fun address => (node.positionAt? path address).bind Position.fault?) =
      (Position.fault? ⟨path, node⟩).or (node.firstFault? path) := by
  induction node using inductionOnChildren generalizing path with
  | step node ih =>
    have hbelow : ((addressesAmong 0 node.children).findSome? fun address =>
        (node.positionAt? path address).bind Position.fault?) = node.firstFault? path := by
      rw [firstFault?_eq, firstFaultAmong?_eq_findSome?, findSome?_addressesAmong
        fun number entry hentry rest => by rw [Nat.zero_add, positionAt?, hentry, Option.bind_some]]
      exact findSome?_congr fun entry hentry => ih entry hentry _
    rw [addresses_eq, List.findSome?_cons, hbelow, positionAt?, Option.bind_some]
    cases Position.fault? ⟨path, node⟩ <;> rfl

/-- To go through the addresses among entries is to check one entry after the other, each before
what is below it. -/
theorem findSome?_addressesAmong_positionAmong? (pathOf : String → PropertyPath)
    (entries : List (String × Node)) :
    ((addressesAmong 0 entries).findSome? fun address =>
      (positionAmong? pathOf entries address).bind Position.fault?) =
      entries.findSome? fun entry => (Position.fault? ⟨pathOf entry.1, entry.2⟩).or
        (entry.2.firstFault? (pathOf entry.1)) := by
  rw [findSome?_addressesAmong fun number entry hentry rest => by
    rw [Nat.zero_add, positionAmong?, hentry, Option.bind_some]]
  exact findSome?_congr fun entry _ => entry.2.findSome?_addresses _

namespace Tree

/-- The path of the position at an address, if there is a misnamed one. -/
def faultAt? (tree : Tree) (address : List Nat) : Option PropertyPath :=
  (tree.positionAt? address).bind Position.fault?

/-- The check of a tree goes through its addresses in document order. -/
theorem findSome?_faultAt? (tree : Tree) : tree.addresses.findSome? tree.faultAt? =
    (firstFaultAmong? .ofPaths tree.paths).or (firstPrototypeFault? tree.prototypes) := by
  rw [addresses, List.findSome?_append, List.findSome?_map, List.findSome?_map,
    firstFaultAmong?_eq_findSome?, firstPrototypeFault?_eq_findSome?,
    ← findSome?_addressesAmong_positionAmong? PropertyPath.ofPaths.child,
    ← findSome?_addressesAmong_positionAmong? .ofPrototype]
  rfl

/-- The check of a tree fails with the first fault at its addresses, if there is one. -/
theorem validate_eq_findSome? (tree : Tree) : tree.validate =
    match tree.addresses.findSome? tree.faultAt? with
    | some path => .error (.invalidName path)
    | none => .ok () := by
  rw [findSome?_faultAt?, validate]
  cases firstFaultAmong? .ofPaths tree.paths <;> rfl

/-- There is no fault at an address unless a misnamed position is there. -/
theorem faultAt?_eq_none {tree : Tree} {address : List Nat} : tree.faultAt? address = none ↔
    ∀ position, tree.positionAt? address = some position → ¬position.Misnamed := by
  simp only [faultAt?, Option.bind_eq_none_iff, Position.fault?_eq_none]

/-- There is a fault at an address when a misnamed position is there, whose path it is. -/
theorem faultAt?_eq_some {tree : Tree} {address : List Nat} {path : PropertyPath} :
    tree.faultAt? address = some path ↔ ∃ position, tree.positionAt? address = some position ∧
      position.Misnamed ∧ path = position.path := by
  simp only [faultAt?, Option.bind_eq_some_iff, Position.fault?_eq_some]

/-- Faults are at addresses of the tree. -/
theorem mem_addresses_of_faultAt? {tree : Tree} {address : List Nat}
    (h : tree.faultAt? address ≠ none) : address ∈ tree.addresses := by
  obtain ⟨path, hpath⟩ := Option.ne_none_iff_exists'.mp h
  obtain ⟨position, hposition, -⟩ := faultAt?_eq_some.mp hpath
  exact mem_addresses_of_positionAt? hposition

/-- The first fault at the addresses of a tree is at the least address that has one. -/
theorem findSome?_faultAt?_eq_some {tree : Tree} {path : PropertyPath} :
    tree.addresses.findSome? tree.faultAt? = some path ↔ ∃ address,
      tree.faultAt? address = some path ∧
        ∀ earlier, List.Lex (· < ·) earlier address → tree.faultAt? earlier = none :=
  findSome?_eq_some_iff_first (fun _ => List.lex_irrefl Nat.lt_irrefl _)
    (List.lex_asymm Nat.lt_asymm) tree.pairwise_addresses fun _ => mem_addresses_of_faultAt?

/-- No fault is at the addresses of a tree exactly when none is at any address. -/
theorem findSome?_faultAt?_eq_none {tree : Tree} :
    tree.addresses.findSome? tree.faultAt? = none ↔ ∀ address, tree.faultAt? address = none := by
  rw [List.findSome?_eq_none_iff]
  refine ⟨fun h address => ?_, fun h address _ => h address⟩
  by_contra hfault
  exact hfault (h address (mem_addresses_of_faultAt? hfault))

/-- The check of a tree passes exactly when no position is misnamed, at whatever depth and below
whatever kinds of nodes. Otherwise it reports the path of the position that comes before all other
misnamed ones in document order: the paths before the prototypes, a position before what is below
it, and that before the next sibling. -/
theorem validate_reports_first (tree : Tree) :
    (tree.validate = .ok () ↔
      ∀ address position, tree.positionAt? address = some position → ¬position.Misnamed) ∧
    ∀ fault, tree.validate = .error fault ↔
      ∃ address position, tree.positionAt? address = some position ∧ position.Misnamed ∧
        (∀ earlier other, List.Lex (· < ·) earlier address →
          tree.positionAt? earlier = some other → ¬other.Misnamed) ∧
        fault = .invalidName position.path := by
  constructor
  · have hok : tree.validate = .ok () ↔ tree.addresses.findSome? tree.faultAt? = none := by
      rw [validate_eq_findSome?]
      cases tree.addresses.findSome? tree.faultAt? <;> simp
    rw [hok, findSome?_faultAt?_eq_none]
    exact forall_congr' fun address => faultAt?_eq_none
  · intro fault
    have herror : tree.validate = .error fault ↔
        ∃ path, tree.addresses.findSome? tree.faultAt? = some path ∧ fault = .invalidName path := by
      rw [validate_eq_findSome?]
      cases tree.addresses.findSome? tree.faultAt? <;> simp [eq_comm]
    rw [herror]
    constructor
    · rintro ⟨path, hfirst, rfl⟩
      obtain ⟨address, hfault, hearlier⟩ := findSome?_faultAt?_eq_some.mp hfirst
      obtain ⟨position, hposition, hmisnamed, rfl⟩ := faultAt?_eq_some.mp hfault
      exact ⟨address, position, hposition, hmisnamed,
        fun earlier other hlex => faultAt?_eq_none.mp (hearlier earlier hlex) other, rfl⟩
    · rintro ⟨address, position, hposition, hmisnamed, hearlier, rfl⟩
      refine ⟨position.path, findSome?_faultAt?_eq_some.mpr ⟨address, ?_, ?_⟩, rfl⟩
      · exact faultAt?_eq_some.mpr ⟨position, hposition, hmisnamed, rfl⟩
      · exact fun earlier hlex => faultAt?_eq_none.mpr fun other => hearlier earlier other hlex

/-- A path is checked before a prototype, and a key before what is below it. -/
example :
    let tree : Tree :=
      { paths := [("root", .reference "Page" [("a.b", .object [("", .scalar .null)])])]
        prototypes := [("", .object [])] }
    tree.validate = .error (.invalidName ⟨.paths, ["root", "a.b"]⟩) := by
  rfl

end Tree

end ComponentAtlas
