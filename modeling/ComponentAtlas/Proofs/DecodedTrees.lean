import ComponentAtlas.Inspector
import ComponentAtlas.Proofs.MergeValidity
import ComponentAtlas.Proofs.Successions

/-!
# Trees that are read

Every map of a tree in a data file is collected by writing one name after the other, so no name
occurs twice in it. The fragments in a directory are therefore distinct trees, and the merged tree
that queries see is a distinct tree that is valid.
-/

namespace ComponentAtlas

namespace Document

variable {dialect : Dialect}

/-- Whether the names in what has been read of a node are distinct, and will be in a node whose value
still waits for its type. -/
def NodeProgress.IsDistinct : NodeProgress → Prop
  | .start | .typed _ => True
  | .untyped decode => ∀ kind node, decode kind = some node → node.DistinctKeys
  | .complete node => node.DistinctKeys

/-- Whether the names in what has been read of an instance are distinct. -/
def InstanceProgress.IsDistinct (progress : InstanceProgress) : Prop :=
  ∀ object ∈ progress.overrides, object.DistinctKeys

/-- An instance takes its overrides from an object, so its names are distinct if those there are. -/
theorem distinctKeys_reference {prototype : String} {object : Node} (h : object.DistinctKeys) :
    (Node.reference prototype object.children).DistinctKeys :=
  DistinctKeysAmong.above h.children

/-- The names in an instance whose record is complete are distinct. -/
theorem InstanceProgress.IsDistinct.node? {progress : InstanceProgress} (h : progress.IsDistinct)
    {node : Node} (hnode : progress.node? = some node) : node.DistinctKeys := by
  obtain ⟨prototype, -, rfl⟩ := Option.map_eq_some_iff.mp hnode
  cases hoverrides : progress.overrides with
  | none => exact DistinctKeysAmong.above distinctKeysAmong_nil
  | some object => exact distinctKeys_reference (h object hoverrides)

/-- A node that holds no entries is read where there is no list or table, so no name repeats in it. -/
theorem distinctKeys_of_leaf? {kind : Kind} {document : Document} {node : Node}
    (h : leaf? dialect kind document = some node) : node.DistinctKeys := by
  have hempty : node.children = [] := by
    cases kind with
    | reference => cases h
    | scalar =>
      simp only [leaf?] at h
      split at h
      · obtain ⟨literal, -, rfl⟩ := Option.map_eq_some_iff.mp h
        rfl
      · cases h
    | expression =>
      obtain ⟨text, -, rfl⟩ := Option.map_eq_some_iff.mp h
      rfl
    | object | directives =>
      obtain ⟨entries, -, hentries⟩ := Option.bind_eq_some_iff.mp h
      split at hentries
      · cases hentries
        rfl
      · cases hentries
  refine DistinctKeysAmong.above ?_
  rw [hempty]
  exact distinctKeysAmong_nil

/-- Whether the names in every node that a document is read as are distinct. -/
structure ReadsDistinct (document : Document) : Prop where
  node : ∀ {dialect node}, node? dialect document = some node → node.DistinctKeys
  payload : ∀ {dialect kind node}, payload? dialect kind document = some node → node.DistinctKeys

section Records

variable {entries : List (Document × Document)}
  (hentries : ∀ entry ∈ entries, entry.2.ReadsDistinct)

include hentries

/-- Named nodes are written one after the other, so their names are distinct. -/
theorem distinctKeysAmong_of_nodeEntries {found nodes : Keyed Node}
    (hfound : DistinctKeysAmong found) (h : nodeEntries dialect found entries = some nodes) :
    DistinctKeysAmong nodes := by
  induction entries generalizing found with
  | nil =>
    obtain rfl : found = nodes := Option.some.inj h
    exact hfound
  | cons entry rest ih =>
    obtain ⟨hcontent, hrest⟩ := List.forall_mem_cons.mp hentries
    rw [nodeEntries] at h
    split at h
    · rename_i hnode
      exact ih hrest (hfound.insert (hcontent.node hnode)) h
    · cases h

/-- The names in a node that a record describes are distinct. The induction is on the entries of the
record: each leaves the progress distinct. -/
theorem distinctKeys_of_nodeRecord {progress : NodeProgress} (hprogress : progress.IsDistinct)
    {node : Node} (h : nodeRecord dialect progress entries = some node) : node.DistinctKeys := by
  induction entries generalizing progress with
  | nil =>
    unfold nodeRecord at h
    split at h
    · obtain rfl := Option.some.inj h
      exact hprogress
    · cases h
  | cons entry rest ih =>
    obtain ⟨key, content⟩ := entry
    obtain ⟨hcontent, hrest⟩ := List.forall_mem_cons.mp hentries
    unfold nodeRecord at h
    split at h
    · cases h
    · exact ih hrest hprogress h
    · split at h
      · refine ih hrest ?_ h
        trivial
      · cases h
    · split at h
      · rename_i hdecoded
        obtain ⟨kind, -, hnode⟩ := Option.bind_eq_some_iff.mp hdecoded
        refine ih hrest ?_ h
        exact hprogress kind _ hnode
      · cases h
    · split at h
      · refine ih hrest ?_ h
        exact fun _ _ => hcontent.payload
      · cases h
    · split at h
      · rename_i hnode
        refine ih hrest ?_ h
        exact hcontent.payload hnode
      · cases h
    · cases h

/-- The names in an instance that a record describes are distinct. -/
theorem distinctKeys_of_instanceRecord {progress : InstanceProgress}
    (hprogress : progress.IsDistinct) {node : Node}
    (h : instanceRecord dialect progress entries = some node) : node.DistinctKeys := by
  induction entries generalizing progress with
  | nil => exact hprogress.node? h
  | cons entry rest ih =>
    obtain ⟨key, content⟩ := entry
    obtain ⟨hcontent, hrest⟩ := List.forall_mem_cons.mp hentries
    rw [instanceRecord] at h
    split at h
    · cases h
    · exact ih hrest hprogress h
    · split at h
      · refine ih hrest ?_ h
        exact hprogress
      · cases h
    · split at h
      · rename_i object _ hobject
        refine ih hrest ?_ h
        rintro _ ⟨⟩
        exact hcontent.payload hobject
      · cases h

/-- The names in a node whose value is a table are distinct. -/
theorem distinctKeys_of_table {kind : Kind} {node : Node}
    (h : payload? dialect kind (table entries) = some node) : node.DistinctKeys := by
  cases kind with
  | scalar | expression =>
    rw [payload?] at h
    cases h
  | reference =>
    rw [payload?] at h
    exact distinctKeys_of_instanceRecord hentries (fun _ hnone => by cases hnone) h
  | object | directives =>
    rw [payload?] at h
    obtain ⟨nodes, hnodes, rfl⟩ := Option.map_eq_some_iff.mp h
    exact DistinctKeysAmong.above
      (distinctKeysAmong_of_nodeEntries hentries distinctKeysAmong_nil hnodes)

end Records

/-- The names in an instance that a list describes are distinct if those in its overrides are. -/
theorem distinctKeys_of_overrides {name overrides : Document} (h : overrides.ReadsDistinct)
    {node : Node} (hnode : (do
      let prototype ← name.text? dialect
      let object ← payload? dialect .object overrides
      return Node.reference prototype object.children) = some node) : node.DistinctKeys := by
  obtain ⟨prototype, -, hfound⟩ := Option.bind_eq_some_iff.mp hnode
  obtain ⟨object, hobject, hreference⟩ := Option.bind_eq_some_iff.mp hfound
  cases hreference
  exact distinctKeys_reference (h.payload hobject)

/-- The documents that a document holds as its items or under its keys. -/
def contents : Document → List Document
  | table entries | tagged _ (table entries) => entries.map Prod.snd
  | list items => items
  | _ => []

/-- What a document holds is smaller than the document. -/
theorem sizeOf_lt_of_mem_contents {document inner : Document} (h : inner ∈ document.contents) :
    sizeOf inner < sizeOf document := by
  have htable : ∀ {entries : List (Document × Document)}, inner ∈ entries.map Prod.snd →
      sizeOf inner < sizeOf (table entries) := by
    intro entries hinner
    obtain ⟨entry, hentry, rfl⟩ := List.mem_map.mp hinner
    have hlt := sizeOf_snd_lt_of_mem hentry
    rw [table.sizeOf_spec]
    omega
  unfold contents at h
  split at h
  · exact htable h
  · have hlt := htable h
    rw [tagged.sizeOf_spec]
    omega
  · have hlt := List.sizeOf_lt_of_mem h
    rw [list.sizeOf_spec]
    omega
  · cases h

/-- A document is read as nodes with distinct names if all that it holds is. -/
theorem readsDistinct_of_contents {document : Document}
    (hcontents : ∀ inner ∈ document.contents, ReadsDistinct inner) : document.ReadsDistinct where
  node {dialect node} h := by
    have hstart : NodeProgress.start.IsDistinct := trivial
    unfold node? at h
    split at h
    · exact distinctKeys_of_nodeRecord (List.forall_mem_map.mp hcontents) hstart h
    · exact distinctKeys_of_nodeRecord (List.forall_mem_map.mp hcontents) hstart h
    · split at h
      · cases h
      · obtain ⟨kind, -, hpayload⟩ := Option.bind_eq_some_iff.mp h
        exact (hcontents _ (by simp [contents])).payload hpayload
    · split at h
      · obtain ⟨kind, -, hpayload⟩ := Option.bind_eq_some_iff.mp h
        exact (hcontents _ (by simp [contents])).payload hpayload
      · cases h
    · cases h
  payload {dialect kind node} h := by
    unfold payload? at h
    split at h
    · exact distinctKeys_of_table (List.forall_mem_map.mp hcontents) h
    · exact distinctKeys_of_table (List.forall_mem_map.mp hcontents) h
    · split at h
      · obtain ⟨prototype, -, rfl⟩ := Option.map_eq_some_iff.mp h
        exact DistinctKeysAmong.above distinctKeysAmong_nil
      · cases h
    · split at h
      · exact distinctKeys_of_overrides (hcontents _ (by simp [contents])) h
      · cases h
    · split at h
      · exact distinctKeys_of_overrides (hcontents _ (by simp [contents])) h
      · cases h
    · exact distinctKeys_of_leaf? h

/-- Every document is read as nodes with distinct names. -/
theorem readsDistinct (document : Document) : document.ReadsDistinct :=
  readsDistinct_of_contents fun inner _ => readsDistinct inner
termination_by sizeOf document
decreasing_by exact sizeOf_lt_of_mem_contents ‹_›

/-- The names in every map of named nodes that are read are distinct. -/
theorem distinctKeysAmong_of_nodes? {document : Document} {nodes : Keyed Node}
    (h : nodes? dialect document = some nodes) : DistinctKeysAmong nodes := by
  obtain ⟨object, hobject, rfl⟩ := Option.map_eq_some_iff.mp h
  exact (document.readsDistinct.payload hobject).children

/-- A field that may be absent holds named nodes with distinct names. -/
theorem distinctKeysAmong_of_field {field : Field} {nodes : Keyed Node}
    (h : field.withDefault [] (nodes? dialect) = some nodes) : DistinctKeysAmong nodes := by
  cases field with
  | present content => exact distinctKeysAmong_of_nodes? h
  | absent | cut =>
    obtain rfl := Option.some.inj h
    exact distinctKeysAmong_nil

/-- A tree that is read from a document is a distinct tree. -/
theorem distinctKeys_of_tree? {document : Document} {tree : Tree}
    (h : tree? dialect document = some tree) : tree.DistinctKeys := by
  obtain ⟨fields, -, hfields⟩ := Option.bind_eq_some_iff.mp h
  split at hfields
  · obtain ⟨paths, hpaths, hrest⟩ := Option.bind_eq_some_iff.mp hfields
    obtain ⟨prototypes, hprototypes, htree⟩ := Option.bind_eq_some_iff.mp hrest
    cases htree
    exact ⟨distinctKeysAmong_of_field hpaths, distinctKeysAmong_of_field hprototypes⟩
  · cases hfields

end Document

/-- Data is read from a file by decoding some document. -/
theorem FileSystem.exists_decode_of_readData {α : Type} {files : FileSystem}
    {decode : Dialect → Document → Option α} {path : String} {value : α}
    (h : files.readData decode path = .ok value) :
    ∃ dialect document, decode dialect document = some value := by
  rw [readData] at h
  split at h
  · cases h
  · rename_i format _
    obtain ⟨text, -, hdecode⟩ := bind_eq_ok.mp h
    split at hdecode
    · rename_i hvalue
      cases hdecode
      obtain ⟨document, -, hdocument⟩ := Option.bind_eq_some_iff.mp hvalue
      exact ⟨format.dialect, document, hdocument⟩
    · cases hdecode

namespace FragmentSource

/-- Whether all fragments of a source are distinct trees. -/
def GivesDistinct (source : FragmentSource) : Prop :=
  ∀ {package found}, source.ofPackage package = .ok found → ∃ sources, trees sources = found

/-- The fragments in a directory are distinct trees. -/
theorem givesDistinct_directory (fragments : DirectoryFragments) :
    (directory fragments).GivesDistinct := by
  intro package found h
  refine exists_trees fun tree htree => ?_
  by_cases hpackage : isPackageName package
  · rw [ofPackage, DirectoryFragments.ofPackage_of_isPackageName hpackage] at h
    split at h
    · cases h
    · obtain ⟨files, -, hread⟩ := bind_eq_ok.mp h
      obtain ⟨file, -, hfile⟩ := exists_mem_of_mapM_eq_ok hread htree
      obtain ⟨dialect, document, hdecode⟩ := FileSystem.exists_decode_of_readData hfile
      exact Document.distinctKeys_of_tree? hdecode
  · rw [ofPackage, DirectoryFragments.ofPackage_of_not_isPackageName hpackage] at h
    cases h

/-- A source without fragments gives distinct trees only. -/
theorem givesDistinct_empty : (memory {}).GivesDistinct := by
  intro package found h
  cases h

/-- A source goes on to give distinct trees when a distinct tree is registered. -/
theorem GivesDistinct.add {fragments : MemoryFragments} (h : (memory fragments).GivesDistinct)
    (package : String) (tree : DistinctTree) :
    (memory (fragments.add package tree)).GivesDistinct := by
  have hbefore : ∃ sources, trees sources = (fragments.trees.find? package).getD [] := by
    cases hfind : fragments.trees.find? package with
    | none => exact ⟨[], rfl⟩
    | some found =>
      refine @h package found ?_
      rw [ofPackage, MemoryFragments.ofPackage, hfind]
  intro other found hfound
  rw [ofPackage, MemoryFragments.ofPackage, MemoryFragments.add, Keyed.find?_insert] at hfound
  by_cases hother : package = other
  · obtain ⟨sources, hsources⟩ := hbefore
    rw [if_pos hother, ← hsources] at hfound
    cases hfound
    exact ⟨sources ++ [tree], trees_append _ _⟩
  · rw [if_neg hother] at hfound
    exact h hfound

/-- The merged tree that queries see is a distinct tree, and it is valid. -/
theorem GivesDistinct.mergedTree {source : FragmentSource} (hsource : source.GivesDistinct)
    {policy : MergePolicy} {package : String} {tree : Tree}
    (h : source.mergedTree policy package = .ok tree) :
    (∃ merged : DistinctTree, merged.toTree = tree) ∧ tree.validate = .ok () := by
  obtain ⟨found, hfound, hrest⟩ := bind_eq_ok.mp h
  obtain ⟨merged, hmerged, hvalidated⟩ := bind_eq_ok.mp hrest
  obtain ⟨⟨⟩, hvalid, hresult⟩ := bind_eq_ok.mp hvalidated
  obtain ⟨sources, rfl⟩ := hsource hfound
  cases hresult
  exact ⟨MergePolicy.exists_distinct_of_merge hmerged, hvalid⟩

end FragmentSource

end ComponentAtlas
