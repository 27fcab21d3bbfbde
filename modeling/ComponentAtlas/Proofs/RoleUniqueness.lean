import ComponentAtlas.Proofs.InstanceAddresses
import ComponentAtlas.Proofs.WellNamed
import Mathlib.Data.Set.Card

/-!
# Roles in well-named prototypes

In a well-named prototype none of whose keys looks like a directive, a role leads back to one
instance. No step holds a dot, so the role determines the steps; and the steps determine the
children to descend to, because directives, which add no step of their own, are told from properties
by the step of the first one below them.
-/

namespace ComponentAtlas

/-- Whether no property of a node has a key that starts like the step of a directive. -/
def Node.HasPlainKeys : Node → Prop
  | .reference _ entries | .object entries => ∀ entry ∈ entries, entry.1.toList.head? ≠ some '@'
  | .scalar _ | .expression _ | .directives _ => True

instance : DecidablePred Node.HasPlainKeys
  | .reference _ entries | .object entries =>
    inferInstanceAs (Decidable (∀ entry ∈ entries, entry.1.toList.head? ≠ some '@'))
  | .scalar _ | .expression _ | .directives _ => inferInstanceAs (Decidable True)

/-- The step of a directive is its name behind an at sign. -/
theorem toList_directiveStep (name : String) :
    (directiveStep name).toList = '@' :: name.toList := by
  simp [directiveStep]

/-- The steps of different directives are different. -/
theorem directiveStep_inj {left right : String} (h : directiveStep left = directiveStep right) :
    left = right := by
  have hlist := congrArg String.toList h
  rw [toList_directiveStep, toList_directiveStep] at hlist
  exact String.toList_inj.mp (List.cons.inj hlist).2

/-- The text of a role determines its steps, if there are any and none holds a dot. -/
theorem roleText_inj {left right : List String} (hleft : left ≠ []) (hright : right ≠ [])
    (hdots : ∀ step ∈ left, '.' ∉ step.toList) (hdots' : ∀ step ∈ right, '.' ∉ step.toList)
    (h : roleText left = roleText right) : left = right := by
  have hsplit : ∀ {steps : List String}, steps ≠ [] → (∀ step ∈ steps, '.' ∉ step.toList) →
      (roleText steps).toList.splitOn '.' = steps.map String.toList := by
    intro steps hne hdots
    rw [roleText, String.toList_intercalate]
    exact List.splitOn_intercalate '.' (List.forall_mem_map.mpr hdots) (by simpa using hne)
  have hmap : left.map String.toList = right.map String.toList := by
    rw [← hsplit hleft hdots, ← hsplit hright hdots', h]
  exact List.map_injective_iff.mpr (fun _ _ => String.toList_inj.mp) hmap

/-- Where no name repeats, entries of one name are at one place. -/
theorem Keyed.eq_of_getElem?_of_distinct {α : Type} {entries : Keyed α} (h : entries.Distinct)
    {i j : Nat} {key : String} {left right : α} (hleft : entries[i]? = some (key, left))
    (hright : entries[j]? = some (key, right)) : i = j := by
  have hkeys : entries.keys[i]? = entries.keys[j]? := by
    simp [Keyed.keys, hleft, hright]
  have hlt : i < entries.keys.length := by
    rw [Keyed.keys, List.length_map]
    exact (List.getElem?_eq_some_iff.mp hleft).1
  exact (List.getElem?_inj hlt h).mp hkeys

namespace Node

/-- What an address leads to lies below the child that its first number stands for. -/
theorem locate?_cons_eq_some {node : Node} {index : Nat} {rest : List Nat} {found : Located} :
    node.locate? (index :: rest) = some found ↔ ∃ key child inner,
      node.children[index]? = some (key, child) ∧ child.locate? rest = some inner ∧
        inner.under (node.kind.stepsTo child.kind key) = found := by
  simp [locate?_cons, Option.bind_eq_some_iff]

/-- Below directives every place starts with the step of one. -/
theorem exists_steps_eq_directiveStep {node : Node} (hkind : node.kind = .directives) {index : Nat}
    {rest : List Nat} {found : Located} (h : node.locate? (index :: rest) = some found) :
    ∃ name more, found.steps = directiveStep name :: more := by
  obtain ⟨key, child, inner, -, -, rfl⟩ := locate?_cons_eq_some.mp h
  exact ⟨key, inner.steps, by simp [Located.under, Kind.stepsTo, hkind]⟩

/-- The place of a node below directives, if it does not hold directives itself. -/
theorem exists_steps_of_directives {node : Node} (hkind : node.kind = .directives)
    {address : List Nat} {found : Located} (h : node.locate? address = some found)
    (hfound : found.node.kind ≠ .directives) :
    ∃ name more, found.steps = directiveStep name :: more := by
  cases address with
  | nil =>
    obtain rfl := Option.some.inj h
    exact absurd hkind hfound
  | cons index rest => exact exists_steps_eq_directiveStep hkind h

/-- Every node below the root that does not hold directives has a place other than the root. -/
theorem steps_ne_nil {node : Node} {index : Nat} {rest : List Nat} {found : Located}
    (h : node.locate? (index :: rest) = some found) (hfound : found.node.kind ≠ .directives) :
    found.steps ≠ [] := by
  obtain ⟨key, child, inner, -, hinner, rfl⟩ := locate?_cons_eq_some.mp h
  intro hnil
  obtain ⟨hstep, hsteps⟩ := List.append_eq_nil_iff.mp hnil
  by_cases hchild : child.kind = .directives
  · obtain ⟨name, more, heq⟩ := exists_steps_of_directives hchild hinner hfound
    rw [heq] at hsteps
    cases hsteps
  · simp only [Kind.stepsTo, if_neg hchild] at hstep
    split at hstep <;> cases hstep

/-- The steps on the way to a node below a well-named one hold no dots. -/
theorem dot_not_mem_of_locate? {node : Node} (hfits : node.Everywhere FittingKeys)
    {address : List Nat} {found : Located} (h : node.locate? address = some found) :
    ∀ step ∈ found.steps, '.' ∉ step.toList := by
  induction address generalizing node found with
  | nil =>
    obtain rfl := Option.some.inj h
    exact fun _ hstep => absurd hstep List.not_mem_nil
  | cons index rest ih =>
    obtain ⟨key, child, inner, hentry, hinner, rfl⟩ := locate?_cons_eq_some.mp h
    have hmem := List.mem_of_getElem? hentry
    have hkey : '.' ∉ key.toList := by
      have hfit := hfits.here _ hmem
      simp only [fitsKey, pathSeparator, Bool.and_eq_true] at hfit
      simpa using hfit.1.2
    have hsteps : ∀ step ∈ node.kind.stepsTo child.kind key, '.' ∉ step.toList := by
      intro step hstep
      unfold Kind.stepsTo at hstep
      split at hstep
      · rw [List.mem_singleton.mp hstep, toList_directiveStep]
        simpa using hkey
      · split at hstep
        · cases hstep
        · rwa [List.mem_singleton.mp hstep]
    exact List.forall_mem_append.mpr ⟨hsteps, ih (hfits.of_mem hmem) hinner⟩

/-- Whether some steps can lead from a child of a given kind to a node that does not hold
directives. -/
def Continues (child : Kind) (steps : List String) : Prop :=
  child = .directives → ∃ name more, steps = directiveStep name :: more

/-- The steps from a node tell the child that they lead through, and the steps from there on. -/
theorem stepsTo_append_inj {node : Node} (hfits : node.FittingKeys) (hplain : node.HasPlainKeys)
    {key key' : String} {child child' : Node} (hmem : (key, child) ∈ node.children)
    (hmem' : (key', child') ∈ node.children) {steps steps' : List String}
    (hsteps : Continues child.kind steps) (hsteps' : Continues child'.kind steps')
    (h : node.kind.stepsTo child.kind key ++ steps = node.kind.stepsTo child'.kind key' ++ steps') :
    key = key' ∧ steps = steps' := by
  by_cases howner : node.kind = .directives
  · simp only [Kind.stepsTo, if_pos howner, List.singleton_append, List.cons.injEq] at h
    exact ⟨directiveStep_inj h.1, h.2⟩
  · have hnotStep : ∀ {key : String} {child : Node}, (key, child) ∈ node.children →
        ∀ name, key ≠ directiveStep name := by
      intro key child hmem name heq
      have hhead : key.toList.head? ≠ some '@' := by
        cases node with
        | reference _ _ | object _ => exact hplain _ hmem
        | scalar _ | expression _ => cases hmem
        | directives _ => exact absurd rfl howner
      rw [heq, toList_directiveStep] at hhead
      exact hhead rfl
    -- Directives add no step here, so the first step below them has to differ from every key.
    by_cases hchild : child.kind = .directives <;> by_cases hchild' : child'.kind = .directives <;>
      simp only [Kind.stepsTo, if_neg howner, hchild, hchild', if_true, if_false,
        List.nil_append, List.singleton_append] at h
    · have hkey := (kind_eq_directives_iff (hfits _ hmem)).mp hchild
      have hkey' := (kind_eq_directives_iff (hfits _ hmem')).mp hchild'
      exact ⟨hkey.trans hkey'.symm, h⟩
    · obtain ⟨name, more, rfl⟩ := hsteps hchild
      exact absurd (List.cons.inj h).1.symm (hnotStep hmem' name)
    · obtain ⟨name, more, rfl⟩ := hsteps' hchild'
      exact absurd (List.cons.inj h).1 (hnotStep hmem name)
    · exact List.cons.inj h

/-- Whether a node is well named, repeats no name and has no key that looks like a directive. -/
structure IsPlain (node : Node) : Prop where
  fits : node.Everywhere FittingKeys
  distinct : node.DistinctKeys
  plain : node.Everywhere HasPlainKeys

/-- The children of a node without keys that look like directives have none either. -/
theorem IsPlain.of_mem {node : Node} (hnode : node.IsPlain) {entry : String × Node}
    (hentry : entry ∈ node.children) : entry.2.IsPlain :=
  ⟨hnode.fits.of_mem hentry, Everywhere.of_mem hnode.distinct hentry, hnode.plain.of_mem hentry⟩

/-- In a well-named node without keys that look like directives, two nodes at the same place, none
of which holds directives, have the same address. -/
theorem address_eq_of_steps_eq {node : Node} (hnode : node.IsPlain) {address other : List Nat}
    {found found' : Located} (h : node.locate? address = some found)
    (h' : node.locate? other = some found') (hfound : found.node.kind ≠ .directives)
    (hfound' : found'.node.kind ≠ .directives) (hsteps : found.steps = found'.steps) :
    address = other := by
  induction address generalizing node other found found' with
  | nil =>
    cases other with
    | nil => rfl
    | cons index rest =>
      obtain rfl := Option.some.inj h
      exact absurd hsteps.symm (steps_ne_nil h' hfound')
  | cons index rest ih =>
    cases other with
    | nil =>
      obtain rfl := Option.some.inj h'
      exact absurd hsteps (steps_ne_nil h hfound)
    | cons index' rest' =>
      obtain ⟨key, child, inner, hentry, hinner, rfl⟩ := locate?_cons_eq_some.mp h
      obtain ⟨key', child', inner', hentry', hinner', rfl⟩ := locate?_cons_eq_some.mp h'
      have hmem := List.mem_of_getElem? hentry
      obtain ⟨rfl, hrest⟩ := stepsTo_append_inj hnode.fits.here hnode.plain.here hmem
        (List.mem_of_getElem? hentry')
        (fun hkind => exists_steps_of_directives hkind hinner hfound)
        (fun hkind => exists_steps_of_directives hkind hinner' hfound') hsteps
      obtain rfl := Keyed.eq_of_getElem?_of_distinct hnode.distinct.children.1 hentry hentry'
      obtain rfl : child = child' := by
        rw [hentry] at hentry'
        exact (Prod.mk.inj (Option.some.inj hentry')).2
      exact congrArg (index :: ·) (ih (hnode.of_mem hmem) hinner hinner' hfound hfound' hrest)

/-- A part stands for an instance and its role for the way to it. -/
theorem exists_locate?_of_partAt? {node : Node} {address : List Nat} {part : Part}
    (h : node.partAt? address = some part) : ∃ found, node.locate? address = some found ∧
      found.node.kind = .reference ∧ part.role = roleText found.steps := by
  obtain ⟨⟨steps, found⟩, hfound, hpart⟩ := Option.bind_eq_some_iff.mp h
  cases found with
  | reference prototype overrides =>
    obtain rfl := Option.some.inj hpart
    exact ⟨_, hfound, rfl, rfl⟩
  | scalar _ | expression _ | object _ | directives _ => cases hpart

/-- In a well-named node without keys that look like directives, a role leads to one address. -/
theorem address_eq_of_role_eq {node : Node} (hnode : node.IsPlain) {address other : List Nat}
    {part part' : Part} (hne : address ≠ []) (hne' : other ≠ [])
    (h : node.partAt? address = some part) (h' : node.partAt? other = some part')
    (hrole : part.role = part'.role) : address = other := by
  obtain ⟨found, hfound, hkind, hpart⟩ := exists_locate?_of_partAt? h
  obtain ⟨found', hfound', hkind', hpart'⟩ := exists_locate?_of_partAt? h'
  have hinstance : ∀ {found : Located}, found.node.kind = .reference →
      found.node.kind ≠ .directives := fun hkind => by simp [hkind]
  have hsteps : ∀ {address : List Nat} {found : Located}, address ≠ [] →
      node.locate? address = some found → found.node.kind = .reference → found.steps ≠ [] := by
    intro address found hne hfound hkind
    obtain ⟨index, rest, rfl⟩ := List.exists_cons_of_ne_nil hne
    exact steps_ne_nil hfound (hinstance hkind)
  rw [hpart, hpart'] at hrole
  exact address_eq_of_steps_eq hnode hfound hfound' (hinstance hkind)
    (hinstance hkind') (roleText_inj (hsteps hne hfound hkind) (hsteps hne' hfound' hkind')
      (dot_not_mem_of_locate? hnode.fits hfound) (dot_not_mem_of_locate? hnode.fits hfound') hrole)

/-- The instances below the root are as many as the addresses in a list of them. -/
theorem ListsInstances.ncard_eq {node : Node} {addresses : List (List Nat)}
    (h : node.ListsInstances addresses) :
    {address | node.HasPartAt address}.ncard = addresses.length := by
  have hset : {address | node.HasPartAt address} = ↑addresses.toFinset := by
    ext address
    simp [h.mem_iff]
  rw [hset, Set.ncard_coe_finset, List.toFinset_card_of_nodup h.nodup]

/-- In a well-named prototype none of whose keys looks like a directive, the parts have different
roles and there are as many of them as instances below the root: no two instances are taken for
one. -/
theorem roles_tell_instances_apart {node : Node} {path : PropertyPath}
    (hvalid : firstFaultAmong? path node.children = none) (hdistinct : node.DistinctKeys)
    (hplain : node.Everywhere HasPlainKeys) :
    (node.anatomy.parts.map Part.role).Nodup ∧
      node.anatomy.parts.length = {address | node.HasPartAt address}.ncard := by
  have hnode : node.IsPlain :=
    ⟨everywhere_iff.mpr ((firstFaultAmong?_eq_none path).mp hvalid), hdistinct, hplain⟩
  have hlists := node.listsInstances_partAddresses
  have hroles : ((node.partAddresses.filterMap node.partAt?).map Part.role).Nodup := by
    rw [List.nodup_iff_pairwise_ne, List.pairwise_map, List.pairwise_filterMap]
    refine hlists.nodup.imp_of_mem fun {address other} hmem hmem' hne part hpart part' hpart' => ?_
    intro hrole
    exact hne (address_eq_of_role_eq hnode ((hlists.mem_iff _).mp hmem).1
      ((hlists.mem_iff _).mp hmem').1 hpart hpart' hrole)
  have hparts : node.anatomy.parts = node.partAddresses.filterMap node.partAt? := by
    rw [anatomy_parts_eq_located, ← filterMap_partAt?, distinct_of_nodup hroles.of_map]
  refine ⟨hparts ▸ hroles, ?_⟩
  rw [hparts, hlists.ncard_eq, List.filterMap_length_eq_length]
  exact fun address hmem => ((hlists.mem_iff address).mp hmem).2

/-- A page with the same directives at its root and within an instance. -/
theorem roles_tell_instances_apart_of_page :
    let wrapping : Node :=
      .directives [("process", .object [("wrap", .reference "Site:Wrapper" [])])]
    let card : Node :=
      .reference "Site:Card" [("media", .reference "Site:Image" []), (metaKey, wrapping)]
    let page : Node := .object [("card", card), (metaKey, wrapping)]
    firstFaultAmong? (.ofPrototype "Site:Page") page.children = none ∧ page.DistinctKeys ∧
      page.Everywhere HasPlainKeys ∧ (page.anatomy.parts.map Part.role).Nodup ∧
      page.anatomy.parts.length = {address | page.HasPartAt address}.ncard := by
  intro wrapping card page
  have hvalid : firstFaultAmong? (.ofPrototype "Site:Page") page.children = none := rfl
  have hdistinct : page.DistinctKeys := by decide
  have hplain : page.Everywhere HasPlainKeys := by decide
  exact ⟨hvalid, hdistinct, hplain, roles_tell_instances_apart hvalid hdistinct hplain⟩

end Node

end ComponentAtlas
