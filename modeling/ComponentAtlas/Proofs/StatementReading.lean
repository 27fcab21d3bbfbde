import ComponentAtlas.Proofs.Statements
import ComponentAtlas.Proofs.WellNamed

/-!
# Reading statements back

The statements of a body are read back from the last one to the first: directives are collected
until a property precedes them or the body begins, and then stand under the reserved key. What is
read for a well-named node is the node itself, except that empty directives leave no statement.
-/

namespace ComponentAtlas

/-- Whether an entry holds no directives under the key that is reserved for them. -/
def isEmptyMeta : String × Node → Bool
  | (key, .directives []) => key = metaKey
  | _ => false

mutual

/-- The node without the empty directives of its objects and overrides, at any depth. -/
def Node.prune : Node → Node
  | .scalar value => .scalar value
  | .expression text => .expression text
  | .reference prototype overrides => .reference prototype (pruneProperties overrides)
  | .object properties => .object (pruneProperties properties)
  | .directives entries => .directives (pruneDirectives entries)

/-- The properties without empty directives, among them and at any depth below them. -/
def pruneProperties : List (String × Node) → List (String × Node)
  | [] => []
  | (key, node) :: rest =>
    if isEmptyMeta (key, node) then pruneProperties rest
    else (key, node.prune) :: pruneProperties rest

/-- The directives without the empty directives of objects and overrides below them. -/
def pruneDirectives : List (String × Node) → List (String × Node)
  | [] => []
  | (name, node) :: rest => (name, node.prune) :: pruneDirectives rest

end

namespace SourceText

/-- Puts collected directives before the properties that follow them. -/
def close (read : Keyed Node × Keyed Node) : Keyed Node :=
  if read.1.isEmpty then read.2 else (metaKey, .directives read.1) :: read.2

/-- Adds a property of a directive in front of collected directives. -/
def addEntry (owner key : String) (node : Node) : Keyed Node → Keyed Node
  | (name, .object properties) :: rest =>
    if name = owner then (name, .object ((key, node) :: properties)) :: rest
    else (owner, .object [(key, node)]) :: (name, .object properties) :: rest
  | directives => (owner, .object [(key, node)]) :: directives

mutual

/-- The node that a statement describes, which holds directives or anything else. -/
def contentNode (holdsDirectives : Bool) : Content → Node
  | .inline (.literal value) => .scalar value
  | .inline (.expression text) => .expression text
  | .inline (.name prototype) => .reference prototype []
  | .extended prototype body => .reference prototype (close (readBody body))
  | .block body =>
    if holdsDirectives then .directives (readBody body).1 else .object (close (readBody body))

/-- The directives at the start of a body and the entries after them. -/
def readBody : List (Target × Content) → Keyed Node × Keyed Node
  | [] => ([], [])
  | (.property key, content) :: rest =>
    ([], (key, contentNode false content) :: close (readBody rest))
  | (.directive name, content) :: rest =>
    ((name, contentNode (name = metaKey) content) :: (readBody rest).1, (readBody rest).2)
  | (.entry owner key, content) :: rest =>
    (addEntry owner key (contentNode false content) (readBody rest).1, (readBody rest).2)

end

/-- A node that holds no directives is not pruned away. -/
theorem isEmptyMeta_of_kind {key : String} {node : Node} (h : node.kind ≠ .directives) :
    isEmptyMeta (key, node) = false := by
  cases node <;> first | rfl | exact absurd rfl h

/-- A property that holds no directives is kept and pruned. -/
theorem pruneProperties_cons {key : String} {node : Node} (h : node.kind ≠ .directives)
    (rest : Keyed Node) :
    pruneProperties ((key, node) :: rest) = (key, node.prune) :: pruneProperties rest := by
  rw [pruneProperties, isEmptyMeta_of_kind h]
  rfl

/-- Pruning keeps the names of directives. -/
theorem keys_pruneDirectives (entries : Keyed Node) :
    Keyed.keys (pruneDirectives entries) = entries.keys := by
  induction entries with
  | nil => rfl
  | cons entry rest ih =>
    obtain ⟨name, node⟩ := entry
    rw [pruneDirectives, Keyed.keys_cons, ih, Keyed.keys_cons]

/-- The first property of a directive starts the directive. -/
theorem addEntry_of_not_mem {owner : String} {directives : Keyed Node}
    (h : owner ∉ directives.keys) (key : String) (node : Node) :
    addEntry owner key node directives = (owner, .object [(key, node)]) :: directives := by
  unfold addEntry
  split
  · rename_i name properties rest
    have hne : name ≠ owner := fun heq => h (heq ▸ List.mem_cons_self)
    rw [if_neg hne]
  · rfl

/-- Whether the statements for a node, and those for its children in each of their forms, are read
back as what they were written for. -/
structure ReadsBack (node : Node) : Prop where
  content : contentNode (node.kind == .directives) (nodeContent node) = node.prune
  directives : ∀ after, (readBody after).1 = [] →
    readBody (directiveStatements node.children ++ after) =
      (pruneDirectives node.children, (readBody after).2)
  entries : isFlat node.children → ∀ owner after, owner ∉ (readBody after).1.keys →
    readBody (entryStatements owner node.children ++ after) =
      ((owner, .object (pruneProperties node.children)) :: (readBody after).1, (readBody after).2)

/-- The statement for a property is read back as its node. -/
theorem ReadsBack.of_kind {node : Node} (h : ReadsBack node) (hkind : node.kind ≠ .directives) :
    contentNode false (nodeContent node) = node.prune := by
  have hcontent := h.content
  rwa [beq_false_of_ne hkind] at hcontent

section Entries

variable {entries : Keyed Node}

/-- The statements of a flat directive are read back as the directive. -/
theorem readBody_entryStatements (h : ∀ entry ∈ entries, ReadsBack entry.2)
    (hflat : isFlat entries) (owner : String) (after : Body)
    (howner : owner ∉ (readBody after).1.keys) :
    readBody (entryStatements owner entries ++ after) =
      ((owner, .object (pruneProperties entries)) :: (readBody after).1, (readBody after).2) := by
  obtain ⟨hne, hkinds⟩ := isFlat_iff.mp hflat
  clear hflat
  induction entries with
  | nil => exact absurd rfl hne
  | cons entry rest ih =>
    obtain ⟨key, node⟩ := entry
    obtain ⟨hnode, hrest⟩ := List.forall_mem_cons.mp h
    obtain ⟨hkind, hkinds⟩ := List.forall_mem_cons.mp hkinds
    rw [entryStatements, List.cons_append, readBody, hnode.of_kind hkind,
      pruneProperties_cons hkind]
    by_cases hlast : rest = []
    · subst hlast
      rw [entryStatements, List.nil_append, addEntry_of_not_mem howner]
      rfl
    · rw [ih hrest hlast hkinds]
      simp [addEntry]

/-- The statements of directives are read back as the directives. -/
theorem readBody_directiveStatements (h : ∀ entry ∈ entries, ReadsBack entry.2)
    (hfits : ∀ entry ∈ entries, fitsKey entry.1 entry.2) (hdistinct : entries.Distinct)
    (after : Body) (hafter : (readBody after).1 = []) :
    readBody (directiveStatements entries ++ after) =
      (pruneDirectives entries, (readBody after).2) := by
  induction entries with
  | nil =>
    rw [directiveStatements, List.nil_append, pruneDirectives, ← hafter]
  | cons entry rest ih =>
    obtain ⟨name, node⟩ := entry
    obtain ⟨hnode, hrest⟩ := List.forall_mem_cons.mp h
    obtain ⟨hfit, hfits⟩ := List.forall_mem_cons.mp hfits
    obtain ⟨hnew, hdistinct⟩ := Keyed.distinct_cons.mp hdistinct
    have hread := ih hrest hfits hdistinct
    have hdirective : readBody ((.directive name, nodeContent node) ::
        (directiveStatements rest ++ after)) =
          (pruneDirectives ((name, node) :: rest), (readBody after).2) := by
      have hholds : decide (name = metaKey) = (node.kind == .directives) := by
        rw [Bool.eq_iff_iff, decide_eq_true_eq, beq_iff_eq, kind_eq_directives_iff hfit]
      rw [readBody, hread, hholds, hnode.content]
      rfl
    by_cases hkind : node.kind = .object
    · cases node with
      | object properties =>
        rw [directiveStatements, List.append_assoc]
        split <;> rename_i hflat
        · have howner : name ∉ (readBody (directiveStatements rest ++ after)).1.keys := by
            rwa [hread, keys_pruneDirectives]
          have hentries := hnode.entries hflat name _ howner
          rw [hread] at hentries
          exact hentries
        · exact hdirective
      | scalar _ | expression _ | reference _ _ | directives _ => cases hkind
    · rw [directiveStatements_value hkind]
      exact hdirective

/-- The statements in a block are read back as the properties. -/
theorem readBody_bodyStatements (h : ∀ entry ∈ entries, ReadsBack entry.2)
    (hfits : ∀ entry ∈ entries, fitsKey entry.1 entry.2) (hdistinct : entries.Distinct) :
    close (readBody (bodyStatements entries)) = pruneProperties entries ∧
      (metaKey ∉ entries.keys → (readBody (bodyStatements entries)).1 = []) := by
  induction entries with
  | nil => exact ⟨rfl, fun _ => rfl⟩
  | cons entry rest ih =>
    obtain ⟨key, node⟩ := entry
    obtain ⟨hnode, hrest⟩ := List.forall_mem_cons.mp h
    obtain ⟨hfit, hfits⟩ := List.forall_mem_cons.mp hfits
    obtain ⟨hnew, hdistinct⟩ := Keyed.distinct_cons.mp hdistinct
    obtain ⟨hclose, hstart⟩ := ih hrest hfits hdistinct
    by_cases hkind : node.kind = .directives
    · have hkey := (kind_eq_directives_iff hfit).mp hkind
      subst hkey
      refine ⟨?_, fun hmeta => absurd List.mem_cons_self hmeta⟩
      have hempty := hstart hnew
      rw [close, hempty] at hclose
      cases node with
      | directives directives =>
        have hdirectives : readBody (directiveStatements directives ++ bodyStatements rest) =
            (pruneDirectives directives, (readBody (bodyStatements rest)).2) :=
          hnode.directives _ hempty
        rw [bodyStatements, hdirectives, close]
        cases directives with
        | nil => exact hclose
        | cons directive more =>
          obtain ⟨name, value⟩ := directive
          exact congrArg ((metaKey, (Node.directives ((name, value) :: more)).prune) :: ·) hclose
      | scalar _ | expression _ | reference _ _ | object _ => cases hkind
    · rw [bodyStatements_property hkind, readBody, hclose, hnode.of_kind hkind,
        pruneProperties_cons hkind]
      exact ⟨rfl, fun _ => rfl⟩

end Entries

/-- The statements for a well-named node are read back as the node. -/
theorem readsBack {node : Node} (hnamed : WellNamed node.children) (hdistinct : node.DistinctKeys) :
    ReadsBack node := by
  induction node using Node.inductionOnChildren with
  | step node ih =>
    obtain ⟨hkeys, hbelow⟩ := hdistinct.children
    have hchildren : ∀ entry ∈ node.children, ReadsBack entry.2 := fun entry hentry =>
      ih entry hentry (hnamed.of_mem hentry) (everywhereAmong_iff.mp hbelow entry hentry)
    have hbody := (readBody_bodyStatements hchildren hnamed.1 hkeys).1
    have hdirectives := readBody_directiveStatements hchildren hnamed.1 hkeys
    refine ⟨?_, hdirectives, readBody_entryStatements hchildren⟩
    cases node with
    | scalar _ | expression _ => rfl
    | reference prototype overrides =>
      rw [nodeContent]
      split <;> rename_i hempty
      · rw [List.isEmpty_iff.mp hempty]
        rfl
      · exact congrArg (Node.reference prototype) hbody
    | object properties => exact congrArg Node.object hbody
    | directives entries =>
      have hread := hdirectives [] rfl
      rw [List.append_nil] at hread
      exact congrArg Node.directives (congrArg Prod.fst hread)

/-- The statements for well-named properties are read back as the properties. -/
theorem close_readBody {entries : Keyed Node} (hnamed : WellNamed entries)
    (hdistinct : DistinctKeysAmong entries) :
    close (readBody (bodyStatements entries)) = pruneProperties entries :=
  (readBody_bodyStatements (fun entry hentry => readsBack (hnamed.of_mem hentry)
    (everywhereAmong_iff.mp hdistinct.2 entry hentry)) hnamed.1 hdistinct.1).1

end SourceText

end ComponentAtlas
