import ComponentAtlas.Proofs.DocumentOrder

/-!
# Addresses of instances

The address of a node consists of the numbers of the children that lead to it from the root. A node
comes before what is below it, and that before its later siblings, so document order is the
lexicographic order of addresses. An anatomy lists the instances at all addresses but that of the
root in this order, each with the role that the keys on the way to it give it.
-/

namespace ComponentAtlas

/-- What is found below a child, with the steps to the child in front. -/
def Located.under (steps : List String) (found : Located) : Located :=
  ⟨steps ++ found.steps, found.node⟩

/-- No steps in front of what is found change nothing. -/
theorem Located.under_nil : Located.under [] = id :=
  rfl

/-- Steps are put in front of those that are put in front before. -/
theorem Located.under_under (outer inner : List String) (found : Located) :
    (found.under inner).under outer = found.under (outer ++ inner) := by
  simp only [under, List.append_assoc]

namespace Node

/-- The node at an address, if there is one, and the steps on the way to it. -/
def locate? : Node → List Nat → Option Located
  | node, [] => some ⟨[], node⟩
  | node, index :: rest =>
    node.children[index]?.bind fun entry =>
      (entry.2.locate? rest).map (Located.under (node.kind.stepsTo entry.2.kind entry.1))

/-- The part that the node at an address is, if there is an instance. -/
def partAt? (node : Node) (address : List Nat) : Option Part :=
  (node.locate? address).bind Located.part?

/-- Whether there is an instance below the root at an address. -/
def HasPartAt (node : Node) (address : List Nat) : Prop :=
  address ≠ [] ∧ (node.partAt? address).isSome

/-- Whether a list holds the addresses of all instances below the root, in document order. -/
structure ListsInstances (node : Node) (addresses : List (List Nat)) : Prop where
  ascending : addresses.Pairwise (List.Lex (· < ·))
  mem_iff : ∀ address, address ∈ addresses ↔ node.HasPartAt address

end Node

mutual

/-- The addresses of a node and of all nodes below it, in document order. -/
def Node.addresses : Node → List (List Nat)
  | .scalar _ | .expression _ => [[]]
  | .reference _ entries | .object entries | .directives entries => [] :: addressesAmong 0 entries

/-- The addresses of named nodes, which are numbered from a given number on, and of all nodes below
them. -/
def addressesAmong (index : Nat) : List (String × Node) → List (List Nat)
  | [] => []
  | (_, node) :: rest => node.addresses.map (index :: ·) ++ addressesAmong (index + 1) rest

end

/-- The addresses among entries are those of each entry behind its number. -/
theorem addressesAmong_eq_flatMap (index : Nat) (entries : List (String × Node)) :
    addressesAmong index entries = (entries.zipIdx index).flatMap fun numbered =>
      numbered.1.2.addresses.map (numbered.2 :: ·) := by
  induction entries generalizing index with
  | nil => rfl
  | cons entry rest ih => rw [addressesAmong, ih, List.zipIdx_cons, List.flatMap_cons]

namespace Node

/-- The first address of a node is its own, and those of its children follow. -/
theorem addresses_eq (node : Node) : node.addresses = [] :: addressesAmong 0 node.children := by
  cases node <;> rfl

/-- The first number of an address leads to a child, and the others lead on from there. -/
theorem locate?_cons (node : Node) (index : Nat) (rest : List Nat) :
    node.locate? (index :: rest) = node.children[index]?.bind fun entry =>
      (entry.2.locate? rest).map (Located.under (node.kind.stepsTo entry.2.kind entry.1)) :=
  rfl

/-- What an address leads to is found below the child that its first number stands for. -/
theorem locate?_of_getElem? {node : Node} {index : Nat} {entry : String × Node}
    (h : node.children[index]? = some entry) (rest : List Nat) :
    node.locate? (index :: rest) =
      (entry.2.locate? rest).map (Located.under (node.kind.stepsTo entry.2.kind entry.1)) := by
  rw [locate?_cons, h, Option.bind_some]

/-- An address among children is one of a child behind the number of this child. -/
theorem mem_addressesAmong {entries : List (String × Node)} {address : List Nat} :
    address ∈ addressesAmong 0 entries ↔ ∃ index rest entry, address = index :: rest ∧
      entries[index]? = some entry ∧ rest ∈ entry.2.addresses := by
  rw [addressesAmong_eq_flatMap, List.mem_flatMap]
  constructor
  · rintro ⟨⟨entry, index⟩, hentry, hmem⟩
    obtain ⟨rest, hrest, rfl⟩ := List.mem_map.mp hmem
    exact ⟨index, rest, entry, rfl, List.mem_zipIdx_iff_getElem?.mp hentry, hrest⟩
  · rintro ⟨index, rest, entry, rfl, hentry, hrest⟩
    exact ⟨(entry, index), List.mem_zipIdx_iff_getElem?.mpr hentry,
      List.mem_map.mpr ⟨rest, hrest, rfl⟩⟩

/-- The addresses of a node are those at which there is a node. -/
theorem mem_addresses {node : Node} {address : List Nat} :
    address ∈ node.addresses ↔ (node.locate? address).isSome := by
  induction address generalizing node with
  | nil => simp [addresses_eq, locate?]
  | cons index rest ih =>
    have hbelow : index :: rest ∈ node.addresses ↔
        index :: rest ∈ addressesAmong 0 node.children := by
      rw [addresses_eq, List.mem_cons]
      simp
    rw [hbelow, mem_addressesAmong]
    constructor
    · rintro ⟨_, _, entry, heq, hentry, hrest⟩
      obtain ⟨rfl, rfl⟩ := List.cons.inj heq
      rw [locate?_of_getElem? hentry, Option.isSome_map]
      exact ih.mp hrest
    · intro hsome
      cases hentry : node.children[index]? with
      | none => simp [locate?_cons, hentry] at hsome
      | some entry =>
        rw [locate?_of_getElem? hentry, Option.isSome_map] at hsome
        exact ⟨index, rest, entry, rfl, hentry, ih.mpr hsome⟩

/-- The addresses among entries are in lexicographic order when those of each entry are. -/
theorem pairwise_addressesAmong {entries : List (String × Node)}
    (h : ∀ entry ∈ entries, entry.2.addresses.Pairwise (List.Lex (· < ·))) (index : Nat) :
    (addressesAmong index entries).Pairwise (List.Lex (· < ·)) := by
  have hnumbers : (entries.zipIdx index).Pairwise fun a b => a.2 < b.2 := by
    have hrange : ((entries.zipIdx index).map Prod.snd).Pairwise (· < ·) := by
      rw [List.zipIdx_map_snd]
      exact List.pairwise_lt_range'
    exact List.pairwise_map.mp hrange
  rw [addressesAmong_eq_flatMap, List.pairwise_flatMap]
  refine ⟨fun numbered hnumbered => ?_, hnumbers.imp fun hlt => ?_⟩
  · have hentry := h numbered.1 (List.fst_mem_of_mem_zipIdx hnumbered)
    exact List.pairwise_map.mpr (hentry.imp .cons)
  · intro first hfirst second hsecond
    obtain ⟨_, -, rfl⟩ := List.mem_map.mp hfirst
    obtain ⟨_, -, rfl⟩ := List.mem_map.mp hsecond
    exact .rel hlt

/-- The addresses of a subtree are in lexicographic order. -/
theorem pairwise_addresses (node : Node) : node.addresses.Pairwise (List.Lex (· < ·)) := by
  induction node using inductionOnChildren with
  | step node ih =>
    rw [addresses_eq, List.pairwise_cons]
    refine ⟨fun address haddress => ?_, pairwise_addressesAmong ih 0⟩
    obtain ⟨index, rest, entry, rfl, -, -⟩ := mem_addressesAmong.mp haddress
    exact .nil

/-- The nodes among children are those at their addresses when this is so for each child. -/
theorem locatedAmong_eq_filterMap_of_children {node : Node}
    (h : ∀ entry ∈ node.children, ∀ steps, entry.2.located steps =
      entry.2.addresses.filterMap fun address => (entry.2.locate? address).map (.under steps))
    (steps : List String) : locatedAmong node.kind steps node.children =
      (addressesAmong 0 node.children).filterMap fun address =>
        (node.locate? address).map (.under steps) := by
  have hentry : ∀ numbered ∈ node.children.zipIdx,
      (numbered.1.2.addresses.map (numbered.2 :: ·)).filterMap
        (fun address => (node.locate? address).map (.under steps)) =
      numbered.1.2.located (steps ++ node.kind.stepsTo numbered.1.2.kind numbered.1.1) := by
    intro numbered hnumbered
    have hfound := List.mem_zipIdx_iff_getElem?.mp hnumbered
    rw [h numbered.1 (List.mem_of_getElem? hfound), List.filterMap_map]
    refine List.filterMap_congr fun address _ => ?_
    rw [Function.comp_apply, locate?_of_getElem? hfound, Option.map_map]
    exact congrArg (Option.map · _) (funext fun found => Located.under_under _ _ found)
  rw [locatedAmong_eq_flatMap, addressesAmong_eq_flatMap, List.filterMap_flatMap,
    List.flatMap_congr hentry]
  conv_lhs => rw [← List.zipIdx_map_fst 0 node.children, List.flatMap_map]

/-- The nodes of a subtree in document order are those at its addresses. -/
theorem located_eq_filterMap (node : Node) (steps : List String) : node.located steps =
    node.addresses.filterMap fun address => (node.locate? address).map (.under steps) := by
  induction node using inductionOnChildren generalizing steps with
  | step node ih =>
    rw [located_eq, addresses_eq, locatedAmong_eq_filterMap_of_children ih,
      List.filterMap_cons_some (b := ⟨steps, node⟩) (by simp [locate?, Located.under])]

/-- The addresses of the instances below the root of a node, in document order. -/
def partAddresses (node : Node) : List (List Nat) :=
  (addressesAmong 0 node.children).filter fun address => (node.partAt? address).isSome

/-- These are the addresses of all instances below the root, in document order. -/
theorem listsInstances_partAddresses (node : Node) : node.ListsInstances node.partAddresses where
  ascending := (pairwise_addressesAmong (fun entry _ => pairwise_addresses entry.2) 0).filter _
  mem_iff address := by
    rw [partAddresses, List.mem_filter, HasPartAt]
    refine and_congr_left fun hpart => ?_
    constructor
    · intro hmem
      obtain ⟨index, rest, entry, rfl, -, -⟩ := mem_addressesAmong.mp hmem
      exact List.cons_ne_nil index rest
    · intro hne
      have hlocated : (node.locate? address).isSome := by
        cases hnode : node.locate? address with
        | none => simp [partAt?, hnode] at hpart
        | some found => rfl
      have hmem := mem_addresses.mpr hlocated
      rw [addresses_eq] at hmem
      exact (List.mem_cons.mp hmem).resolve_left hne

/-- No address of an instance is listed twice. -/
theorem ListsInstances.nodup {node : Node} {addresses : List (List Nat)}
    (h : node.ListsInstances addresses) : addresses.Nodup := by
  refine List.nodup_iff_pairwise_ne.mpr (h.ascending.imp fun hlt heq => ?_)
  subst heq
  exact List.lex_irrefl Nat.lt_irrefl _ hlt

/-- Only one list holds the addresses of the instances in document order. -/
theorem ListsInstances.unique {node : Node} {addresses others : List (List Nat)}
    (h : node.ListsInstances addresses) (hothers : node.ListsInstances others) :
    addresses = others := by
  have hperm : addresses.Perm others := (List.perm_ext_iff_of_nodup h.nodup hothers.nodup).mpr
    fun address => (h.mem_iff address).trans (hothers.mem_iff address).symm
  refine hperm.eq_of_pairwise (fun _ _ _ _ hlt hgt => ?_) h.ascending hothers.ascending
  exact absurd hgt (List.lex_asymm Nat.lt_asymm hlt)

/-- The instances below the root in document order are those at their addresses. -/
theorem filterMap_partAt? (node : Node) : node.partAddresses.filterMap node.partAt? =
    (locatedAmong node.kind [] node.children).filterMap Located.part? := by
  rw [locatedAmong_eq_filterMap_of_children fun entry _ => located_eq_filterMap entry.2,
    List.filterMap_filterMap, partAddresses, List.filterMap_filter]
  refine List.filterMap_congr fun address _ => ?_
  rw [Located.under_nil, Option.map_id, id_eq]
  change (if (node.partAt? address).isSome then node.partAt? address else none) =
    node.partAt? address
  cases node.partAt? address <;> rfl

/-- An anatomy lists the instances in the subtree, whatever the other prototypes hold: all those
below the root in document order, each with the role that the keys on the way to it give it and
without repetitions. It names a parent exactly when the root itself is an instance. -/
theorem anatomy_lists_instances (node : Node) :
    (∃! addresses, node.ListsInstances addresses) ∧
      (∀ addresses, node.ListsInstances addresses →
        node.anatomy.parts = (addresses.filterMap node.partAt?).eraseDups) ∧
      ∀ parent, node.anatomy.parent = some parent ↔
        ∃ overrides, node = .reference parent overrides := by
  have hlists := node.listsInstances_partAddresses
  refine ⟨⟨_, hlists, fun others hothers => hothers.unique hlists⟩, fun addresses h => ?_,
    fun parent => ?_⟩
  · rw [h.unique hlists, filterMap_partAt?, anatomy_parts_eq_located, distinct_eq_eraseDups]
  · cases node <;> simp [anatomy]

/-- A key that looks like a directive gives an instance the role of another one, and they are listed
once. -/
example :
    let icon : Node := .reference "Site:Icon" []
    let card : Node := .object [("@if", icon), ("body", .reference "Site:Text" [("icon", icon)]),
      (metaKey, .directives [("if", icon)])]
    card.partAddresses = [[0], [1], [1, 0], [2, 0]] ∧
      card.anatomy.parts =
        [⟨"@if", "Site:Icon"⟩, ⟨"body", "Site:Text"⟩, ⟨"body.icon", "Site:Icon"⟩] := by
  decide

end Node

end ComponentAtlas
