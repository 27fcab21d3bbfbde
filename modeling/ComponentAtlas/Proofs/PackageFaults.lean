import ComponentAtlas.Inspector
import ComponentAtlas.Proofs.NodeInduction
import ComponentAtlas.Proofs.Successions

/-!
# Faults of packages

What can go wrong on the way from the fragments of a package to its merged tree: the package is
unknown, a file cannot be reached, read or decoded, two fragments conflict, or the merged tree has a
position at fault. Nothing else does, so a query that only adds views on the tree reports patterns
or literals only where it looks at them itself.
-/

namespace ComponentAtlas

/-- The faults that finding the fragments of a package may have. -/
inductive Fault.OfPackage (package : String) : Fault → Prop
  | unknown : OfPackage package (.unknownPackage package)
  | unreadable (path : String) (cause : ReadFault) : OfPackage package (.unreadable path cause)
  | undecodable (path : String) (cause : FormatFault) : OfPackage package (.undecodable path cause)

/-- Whether a fault is that of nodes that the strict policy does not merge. -/
def Fault.IsConflict (fault : Fault) : Prop :=
  ∃ path existing incoming, fault = .mergeConflict path existing incoming

namespace MergePolicy

variable {policy : MergePolicy} {fault : Fault}

/-- Laying named nodes over others fails with a conflict only, if each of the nodes does. -/
theorem mergeEntries_fault_of_nodes {next : List (String × Node)}
    (hnodes : ∀ entry ∈ next, ∀ {fault path existing},
      policy.mergeNode path existing entry.2 = .error fault → fault.IsConflict)
    {parent : PropertyPath} {base : Keyed Node}
    (h : policy.mergeEntries parent base next = .error fault) : fault.IsConflict := by
  induction next generalizing base with
  | nil => cases h
  | cons entry rest ih =>
    obtain ⟨key, node⟩ := entry
    obtain ⟨hnode, hrest⟩ := List.forall_mem_cons.mp hnodes
    rw [mergeEntries] at h
    split at h
    · rename_i existing _
      split at h
      · exact ih hrest h
      · rename_i found hfound
        cases h
        exact hnode hfound
    · exact ih hrest h

/-- A node that takes merged entries over fails with a conflict only, if each of the entries does. -/
theorem map_mergeEntries_fault_of_nodes {next : List (String × Node)}
    (hnodes : ∀ entry ∈ next, ∀ {fault path existing},
      policy.mergeNode path existing entry.2 = .error fault → fault.IsConflict)
    {rebuild : Keyed Node → Node} {parent : PropertyPath} {base : Keyed Node}
    (h : rebuild <$> policy.mergeEntries parent base next = .error fault) : fault.IsConflict :=
  mergeEntries_fault_of_nodes hnodes (map_eq_error.mp h)

/-- Laying one node over another fails with a conflict only. -/
theorem mergeNode_fault {path : PropertyPath} {existing incoming : Node}
    (h : policy.mergeNode path existing incoming = .error fault) : fault.IsConflict := by
  induction incoming generalizing path existing fault with
  | scalar _ | expression _ | reference _ _ _ =>
    rw [mergeNode] at h
    split at h
    · cases h
    · cases h
      exact ⟨_, _, _, rfl⟩
  | object properties ih =>
    simp only [mergeNode] at h
    split at h
    · cases existing with
      | object _ | reference _ _ => exact map_mergeEntries_fault_of_nodes ih h
      | scalar _ | expression _ | directives _ => cases h
    · cases h
      exact ⟨_, _, _, rfl⟩
  | directives entries ih =>
    simp only [mergeNode] at h
    split at h
    · cases existing with
      | directives _ => exact map_mergeEntries_fault_of_nodes ih h
      | scalar _ | expression _ | reference _ _ | object _ => cases h
    · cases h
      exact ⟨_, _, _, rfl⟩

/-- Entries of which one is laid over another fail to merge by a conflict only. -/
theorem mergeEntries_fault {parent : PropertyPath} {base next : Keyed Node}
    (h : policy.mergeEntries parent base next = .error fault) : fault.IsConflict :=
  mergeEntries_fault_of_nodes (fun _ _ => mergeNode_fault) h

/-- Prototypes fail to merge by a conflict only. -/
theorem mergePrototypes_fault {base next : Keyed Node}
    (h : policy.mergePrototypes base next = .error fault) : fault.IsConflict := by
  induction next generalizing base with
  | nil => cases h
  | cons entry rest ih =>
    obtain ⟨name, node⟩ := entry
    rw [mergePrototypes] at h
    split at h
    · split at h
      · exact ih h
      · rename_i found hfound
        cases h
        exact mergeNode_fault hfound
    · exact ih h

/-- A tree fails to be merged onto another by a conflict only. -/
theorem mergeOnto_fault {base next : Tree} (h : policy.mergeOnto base next = .error fault) :
    fault.IsConflict := by
  rcases bind_eq_error.mp h with hpaths | ⟨_, _, hrest⟩
  · exact mergeEntries_fault hpaths
  rcases bind_eq_error.mp hrest with hprototypes | ⟨_, _, hnone⟩
  · exact mergePrototypes_fault hprototypes
  · cases hnone

/-- Merging trees fails with a conflict only. -/
theorem merge_fault {sources : List Tree} (h : policy.merge sources = .error fault) :
    fault.IsConflict := by
  have hrun : ∀ {start : Tree}, sources.foldlM policy.mergeOnto start = .error fault →
      fault.IsConflict := by
    clear h
    induction sources with
    | nil => intro start h; cases h
    | cons source rest ih =>
      intro start h
      rw [List.foldlM_cons] at h
      rcases bind_eq_error.mp h with hsource | ⟨_, _, hrest⟩
      · exact mergeOnto_fault hsource
      · exact ih hrest
  exact hrun h

end MergePolicy

/-- A tree is refused for a position at fault only. -/
theorem Tree.validate_fault {tree : Tree} {fault : Fault} (h : tree.validate = .error fault) :
    ∃ path, fault = .invalidName path := by
  rw [validate] at h
  split at h
  · cases h
    exact ⟨_, rfl⟩
  · cases h

namespace FileSystem

variable {files : FileSystem} {fault : Fault}

/-- What goes wrong with the text of a file is that it cannot be read. -/
theorem readText_fault {path : String} (h : files.readText path = .error fault) :
    ∃ cause, fault = .unreadable path cause := by
  rw [readText] at h
  split at h
  · cases h
    exact ⟨_, rfl⟩
  · split at h
    · cases h
    · cases h
      exact ⟨_, rfl⟩

/-- Whether a fault says that a file cannot be read or decoded. -/
def FailsToRead (path : String) (fault : Fault) : Prop :=
  (∃ cause, fault = .unreadable path cause) ∨ ∃ cause, fault = .undecodable path cause

/-- What goes wrong with the data in a file is said about that file. -/
theorem readData_fault {α : Type} {decode : Dialect → Document → Option α} {path : String}
    (h : files.readData decode path = .error fault) : FailsToRead path fault := by
  rw [readData] at h
  split at h
  · cases h
    exact .inr ⟨_, rfl⟩
  · rcases bind_eq_error.mp h with hread | ⟨text, _, hdecode⟩
    · exact .inl (readText_fault hread)
    · split at hdecode
      · cases hdecode
      · cases hdecode
        exact .inr ⟨_, rfl⟩

section Walks

variable {inside : List Ancestor → Ancestor → List String → Directory →
    Except Fault (List FragmentFile)}

/-- Whether a fault is that of a walk: some path cannot be reached. -/
def FailsToReach (fault : Fault) : Prop :=
  ∃ path cause, fault = .unreadable path cause

/-- What goes wrong at an entry is that some path cannot be reached, when this is so in directories.
-/
theorem fragmentsAt_fault
    (hinside : ∀ ancestors around names entries fault,
      inside ancestors around names entries = .error fault → FailsToReach fault)
    {ancestors : List Ancestor} {around : Ancestor} {names : List String} {name : String}
    {entry : FileEntry}
    (h : files.fragmentsAt inside ancestors around names name entry = .error fault) :
    FailsToReach fault := by
  cases entry with
  | file _ => cases h
  | directory entries => exact hinside _ _ _ _ _ h
  | link target =>
    rw [fragmentsAt_link] at h
    split at h
    · cases h
      exact ⟨_, _, rfl⟩
    · split at h
      · cases h
        exact ⟨_, _, rfl⟩
      · exact hinside _ _ _ _ _ h
    · cases h

/-- What goes wrong below a directory is that some path cannot be reached. -/
theorem fragmentsBelow_fault {fuel : Nat} {ancestors : List Ancestor} {around : Ancestor}
    {names : List String} {entries : Directory}
    (h : files.fragmentsBelow fuel ancestors around names entries = .error fault) :
    FailsToReach fault := by
  induction fuel generalizing ancestors around names entries fault with
  | zero => cases h
  | succ fuel ih =>
    rw [fragmentsBelow_succ] at h
    rcases bind_eq_error.mp h with hentries | ⟨_, _, hnone⟩
    · obtain ⟨entry, -, hentry⟩ := (mapM_eq_error.mp hentries).exists_mem
      exact fragmentsAt_fault (fun _ _ _ _ _ => ih) hentry
    · cases hnone

end Walks

end FileSystem

namespace DirectoryFragments

variable {fragments : DirectoryFragments} {package : String} {fault : Fault}

/-- Once the directory of a package is found, only a file can be at fault. -/
theorem failsToRead_of_list (hpackage : isPackageName package) {found : Location × Directory}
    (hlist : fragments.files.list (fragments.directoryOf package) = .ok found)
    (h : fragments.ofPackage package = .error fault) :
    ∃ path, FileSystem.FailsToRead path fault := by
  rw [ofPackage_of_isPackageName hpackage, hlist] at h
  rcases bind_eq_error.mp h with hfiles | ⟨_, _, hread⟩
  · rcases bind_eq_error.mp hfiles with hwalk | ⟨_, _, hnone⟩
    · obtain ⟨path, hcause⟩ := FileSystem.fragmentsBelow_fault hwalk
      exact ⟨path, .inl hcause⟩
    · cases hnone
  · obtain ⟨file, -, hfile⟩ := (mapM_eq_error.mp hread).exists_mem
    exact ⟨file.path, FileSystem.readData_fault hfile⟩

/-- The fragments of a package cannot be had when the package is unknown or a file among them cannot
be reached, read or decoded. -/
theorem ofPackage_fault (h : fragments.ofPackage package = .error fault) :
    fault.OfPackage package := by
  by_cases hpackage : isPackageName package
  · cases hlist : fragments.files.list (fragments.directoryOf package) with
    | error _ =>
      rw [ofPackage_of_isPackageName hpackage, hlist] at h
      cases h
      exact .unknown
    | ok found =>
      obtain ⟨path, ⟨cause, rfl⟩ | ⟨cause, rfl⟩⟩ := failsToRead_of_list hpackage hlist h
      · exact .unreadable path cause
      · exact .undecodable path cause
  · rw [ofPackage_of_not_isPackageName hpackage] at h
    cases h
    exact .unknown

end DirectoryFragments

/-- What goes wrong with the fragments of a package is said about it or about one of its files. -/
theorem FragmentSource.ofPackage_fault {source : FragmentSource} {package : String} {fault : Fault}
    (h : source.ofPackage package = .error fault) : fault.OfPackage package := by
  cases source with
  | directory fragments => exact DirectoryFragments.ofPackage_fault h
  | memory fragments =>
    simp only [ofPackage, MemoryFragments.ofPackage] at h
    split at h
    · cases h
    · cases h
      exact .unknown

/-- A package has no merged tree when its fragments cannot be had, when two of them conflict, or when
what they merge to has a position at fault. -/
theorem FragmentSource.mergedTree_fault {source : FragmentSource} {policy : MergePolicy}
    {package : String} {fault : Fault} (h : source.mergedTree policy package = .error fault) :
    source.ofPackage package = .error fault ∨ fault.IsConflict ∨
      ∃ path, fault = .invalidName path := by
  rcases bind_eq_error.mp h with hfragments | ⟨fragments, _, hmerged⟩
  · exact .inl hfragments
  rcases bind_eq_error.mp hmerged with hmerge | ⟨tree, _, hvalidated⟩
  · exact .inr (.inl (MergePolicy.merge_fault hmerge))
  rcases bind_eq_error.mp hvalidated with hvalid | ⟨_, _, hnone⟩
  · exact .inr (.inr (Tree.validate_fault hvalid))
  · cases hnone

end ComponentAtlas
