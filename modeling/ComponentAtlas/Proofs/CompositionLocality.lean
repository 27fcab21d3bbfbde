import ComponentAtlas.Proofs.CompositionCompleteness

/-!
# Locality of compositions

Expansion looks prototypes up by name and follows nothing but their parts. Two trees that hold the
same nodes under all names that can be reached therefore give the same outline: at every position
the same names have been expanded before, so both expansions go on in the same way.
-/

namespace ComponentAtlas

/-- Whether a tree holds what another one holds under every name that can be reached from a given
name: the same prototype, or none. -/
def Tree.AgreesFrom (tree : Tree) (name : String) (other : Tree) : Prop :=
  ∀ reached, tree.Reaches name reached →
    tree.prototypes.find? reached = other.prototypes.find? reached

section

variable {tree other : Tree} {name : String}

/-- Trees that agree from a name on hold the same prototype under it. -/
theorem Tree.AgreesFrom.find?_eq (h : tree.AgreesFrom name other) :
    tree.prototypes.find? name = other.prototypes.find? name :=
  h name .refl

/-- What can be reached from a part can be reached from the whole. -/
theorem Tree.AgreesFrom.of_composes (h : tree.AgreesFrom name other) {part : String}
    (hpart : tree.Composes name part) : tree.AgreesFrom part other :=
  fun reached hreached => h reached (.head hpart hreached)

/-- A state is threaded alike by steps that agree on all items, whatever the state. -/
theorem threadMap_congr {σ α β : Type} {first second : σ → α → β × σ} {items : List α}
    (h : ∀ item ∈ items, ∀ state, first state item = second state item) (state : σ) :
    threadMap first state items = threadMap second state items := by
  induction items generalizing state with
  | nil => rfl
  | cons item rest ih =>
    obtain ⟨hitem, hrest⟩ := List.forall_mem_cons.mp h
    simp only [threadMap, hitem state, ih hrest]

/-- Expansions in trees that agree stay in step: they give the same outline and hand on the same
expanded names. -/
theorem Tree.expand_congr (h : tree.AgreesFrom name other) (levels : Nat)
    (expanded : List String) (role : Option String) :
    tree.expand levels expanded name role = other.expand levels expanded name role := by
  induction levels generalizing expanded name role with
  | zero =>
    cases hfind : tree.prototypes.find? name with
    | none => rw [expand_of_missing hfind, expand_of_missing (h.find?_eq ▸ hfind)]
    | some node => rw [expand_zero hfind, expand_zero (h.find?_eq ▸ hfind)]
  | succ levels ih =>
    cases hfind : tree.prototypes.find? name with
    | none => rw [expand_of_missing hfind, expand_of_missing (h.find?_eq ▸ hfind)]
    | some node =>
      have hother : other.prototypes.find? name = some node := h.find?_eq ▸ hfind
      by_cases hmem : name ∈ expanded
      · rw [expand_of_mem hfind hmem, expand_of_mem hother hmem]
      · have hparts : ∀ part ∈ node.anatomy.parts, ∀ seen,
            tree.expand levels seen part.prototype (some part.role) =
              other.expand levels seen part.prototype (some part.role) := by
          intro part hpart seen
          exact ih (h.of_composes ⟨node, hfind, List.mem_map_of_mem hpart⟩) seen (some part.role)
        rw [expand_of_not_mem hfind hmem, expand_of_not_mem hother hmem,
          threadMap_congr hparts]

/-- Trees that agree from a name on are resolved alike from it. -/
theorem Tree.resolve_congr (h : tree.AgreesFrom name other) (depth : Nat) :
    tree.resolve name depth = other.resolve name depth := by
  rw [resolve, resolve, prototype, prototype, h.find?_eq, expand_congr h]

/-- Trees that hold the same entries under all reachable names agree, in whatever order they hold
them and whatever else they hold. -/
theorem Tree.agreesFrom_of_entries (htree : tree.prototypes.Distinct)
    (hother : other.prototypes.Distinct)
    (hentries : ∀ entry, tree.Reaches name entry.1 →
      (entry ∈ tree.prototypes ↔ entry ∈ other.prototypes)) : tree.AgreesFrom name other := by
  intro reached hreached
  refine Option.ext fun node => ?_
  constructor
  · intro hfind
    exact Keyed.find?_of_mem hother
      ((hentries (reached, node) hreached).mp (Keyed.mem_of_find? hfind))
  · intro hfind
    exact Keyed.find?_of_mem htree
      ((hentries (reached, node) hreached).mpr (Keyed.mem_of_find? hfind))

/-- The names of the parts of a prototype. -/
def Tree.partNames (tree : Tree) (name : String) : List String :=
  ((tree.prototypes.find? name).map fun node => node.anatomy.parts.map Part.prototype).getD []

/-- Names that include all parts of each of them include all that can be reached from one. -/
theorem Tree.Reaches.mem_of_closed {reached : String} (h : tree.Reaches name reached)
    {names : List String} (hname : name ∈ names)
    (hclosed : ∀ whole ∈ names, tree.partNames whole ⊆ names) : reached ∈ names := by
  induction h with
  | refl => exact hname
  | tail _ hcomposes ih =>
    obtain ⟨node, hfind, hpart⟩ := hcomposes
    refine hclosed _ ih ?_
    rw [partNames, hfind]
    exact hpart

end

/-- A composition depends on what can be reached and on nothing else. Trees that hold the same nodes
under the name and all names that can be reached from it, or none under the same of them, give it
the same composition at every depth. So nothing changes when the rendering paths do, or when
prototypes that cannot be reached are added, edited, removed or put into another order. -/
theorem Tree.resolve_local (tree : Tree) (name : String) :
    (∀ other : Tree, tree.AgreesFrom name other →
      ∀ depth, tree.resolve name depth = other.resolve name depth) ∧
    ∀ other : Tree, tree.prototypes.Distinct → other.prototypes.Distinct →
      (∀ entry, tree.Reaches name entry.1 →
        (entry ∈ tree.prototypes ↔ entry ∈ other.prototypes)) →
      ∀ depth, tree.resolve name depth = other.resolve name depth :=
  ⟨fun _ => resolve_congr,
    fun _ htree hother hentries => resolve_congr (agreesFrom_of_entries htree hother hentries)⟩

/-- A page and its menu, which refer to each other, in another order, between other prototypes and
beside other paths. -/
theorem Tree.resolve_local_of_menu :
    let page : Node := .object [("menu", .reference "Menu" [])]
    let menu : Node := .object [("page", .reference "Page" []), ("icon", .reference "Icon" [])]
    let tree : Tree := { prototypes := [("Page", page), ("Footer", .reference "Page" []),
      ("Menu", menu)] }
    let other : Tree :=
      { paths := [("root", .reference "Page" [])]
        prototypes := [("Menu", menu), ("Header", .object []), ("Page", page),
          ("Footer", .scalar .null)] }
    tree.AgreesFrom "Page" other ∧ tree.prototypes.Distinct ∧ other.prototypes.Distinct ∧
      (∀ entry, tree.Reaches "Page" entry.1 →
        (entry ∈ tree.prototypes ↔ entry ∈ other.prototypes)) ∧
      ∀ depth, tree.resolve "Page" depth = other.resolve "Page" depth := by
  intro page menu tree other
  have hclosed : ∀ reached, tree.Reaches "Page" reached → reached ∈ ["Page", "Menu", "Icon"] :=
    fun _ hreached => hreached.mem_of_closed (by decide) (by decide)
  have htree : tree.prototypes.Distinct := by
    change List.Nodup _
    decide
  have hother : other.prototypes.Distinct := by
    change List.Nodup _
    decide
  have hentries : ∀ entry, tree.Reaches "Page" entry.1 →
      (entry ∈ tree.prototypes ↔ entry ∈ other.prototypes) := by
    rintro ⟨reached, node⟩ hreached
    have hmem := hclosed reached hreached
    simp only [List.mem_cons, List.not_mem_nil, or_false] at hmem
    rcases hmem with rfl | rfl | rfl <;> simp [tree, other]
  have hagrees := agreesFrom_of_entries htree hother hentries
  exact ⟨hagrees, htree, hother, hentries, (resolve_local tree "Page").1 other hagrees⟩

end ComponentAtlas
