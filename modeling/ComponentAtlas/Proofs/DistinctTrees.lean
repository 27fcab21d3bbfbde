import ComponentAtlas.Proofs.NodeInduction

/-!
# Trees with distinct names

Trees in whose maps no name occurs twice have a type of their own. The theorems about merging and
transport speak of such trees, and each operation that they go through is shown once to give such a
tree again.
-/

namespace ComponentAtlas

/-- A tree in whose maps no name occurs twice. -/
structure DistinctTree extends Tree where
  distinct : toTree.DistinctKeys

instance : Coe DistinctTree Tree := ⟨DistinctTree.toTree⟩

/-- A list of distinct trees as a list of trees, which is what is merged. -/
def trees (sources : List DistinctTree) : List Tree :=
  sources.map DistinctTree.toTree

section Trees

variable {sources : List DistinctTree}

/-- An empty list of distinct trees is an empty list of trees. -/
@[simp] theorem trees_nil : trees [] = [] := rfl

/-- The first of several distinct trees is the first of the trees. -/
@[simp] theorem trees_cons (source : DistinctTree) (rest : List DistinctTree) :
    trees (source :: rest) = source.toTree :: trees rest := rfl

/-- Two lists of distinct trees one after the other are so as trees. -/
@[simp] theorem trees_append (first second : List DistinctTree) :
    trees (first ++ second) = trees first ++ trees second :=
  List.map_append

/-- The names of every tree of a list of distinct trees are distinct. -/
theorem distinctKeys_of_mem_trees {tree : Tree} (h : tree ∈ trees sources) :
    tree.DistinctKeys := by
  obtain ⟨source, -, rfl⟩ := List.mem_map.mp h
  exact source.distinct

/-- Trees whose names are distinct are a list of distinct trees. -/
theorem exists_trees {plain : List Tree} (h : ∀ tree ∈ plain, tree.DistinctKeys) :
    ∃ sources, trees sources = plain := by
  refine ⟨plain.pmap DistinctTree.mk h, ?_⟩
  rw [trees, List.map_pmap, List.pmap_eq_map, List.map_id']

end Trees

/-- Entries keep distinct names when a node whose names are distinct is written under some name. -/
theorem DistinctKeysAmong.insert {entries : Keyed Node} (h : DistinctKeysAmong entries)
    {name : String} {node : Node} (hnode : node.DistinctKeys) :
    DistinctKeysAmong (entries.insert name node) := by
  refine ⟨h.1.insert name node, everywhereAmong_iff.mpr ?_⟩
  exact Keyed.forall_mem_insert (everywhereAmong_iff.mp h.2) hnode

namespace DistinctTree

/-- The tree without any definition. -/
def empty : DistinctTree :=
  ⟨.empty, by decide⟩

/-- Adds or replaces a rendering path with distinct names. -/
def withPath (tree : DistinctTree) (name : String) {node : Node} (hnode : node.DistinctKeys) :
    DistinctTree :=
  ⟨tree.toTree.withPath name node, tree.distinct.1.insert hnode, tree.distinct.2⟩

/-- Adds or replaces a prototype with distinct names. -/
def withPrototype (tree : DistinctTree) (name : String) {node : Node}
    (hnode : node.DistinctKeys) : DistinctTree :=
  ⟨tree.toTree.withPrototype name node, tree.distinct.1, tree.distinct.2.insert hnode⟩

end DistinctTree

end ComponentAtlas
