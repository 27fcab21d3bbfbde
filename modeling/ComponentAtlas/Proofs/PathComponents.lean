import ComponentAtlas.Proofs.FileTrees

/-!
# Components of paths

A path starts at the root, at the current directory or with a name, and it goes through names, where
repeated separators and dots in between count for nothing. A name below a path is one more component,
and the extension of the path is that of the name.
-/

namespace ComponentAtlas

/-- Where a path says that it starts, if it does. -/
def pathStart (path : String) : List String :=
  if path.startsWith slash then [slash]
  else if (pathSteps path).head? = some "." then ["."] else []

/-- The names that a path goes through. -/
def pathNames (path : String) : List String :=
  (pathSteps path).filter fun name => name ≠ "" ∧ name ≠ "."

/-- The components of a path: where it says that it starts, and the names that it goes through. -/
def pathComponents (path : String) : List String :=
  pathStart path ++ pathNames path

/-- A path starts at the root when its first character is the separator. -/
theorem startsWith_slash_iff {path : String} :
    path.startsWith slash = true ↔ path.toList.head? = some '/' := by
  constructor
  · intro h
    refine Classical.byContradiction fun hhead => ?_
    rw [startsWith_slash_eq_false hhead] at h
    cases h
  · intro h
    obtain ⟨rest, hrest⟩ := List.head?_eq_some_iff.mp h
    exact String.startsWith_string_iff.mpr ⟨rest, hrest.symm⟩

/-- The steps of a path are those before a separator and those after it. -/
theorem pathSteps_eq_of_toList {path : String} {before after : List Char}
    (h : path.toList = before ++ '/' :: after) :
    pathSteps path = pathSteps (String.ofList before) ++ pathSteps (String.ofList after) := by
  simp only [pathSteps, piecesAt, h, List.splitOn_append_cons_self, List.map_append,
    String.toList_ofList]

/-- Every path has a step, if only an empty one. -/
theorem pathSteps_ne_nil (path : String) : pathSteps path ≠ [] := by
  rw [pathSteps, piecesAt, ne_eq, List.map_eq_nil_iff]
  exact List.splitOn_ne_nil _ _

/-- A name below no path is the name. -/
theorem joinPath_empty (name : String) : joinPath "" name = name :=
  if_pos (Bool.or_eq_true_iff.mpr (.inr rfl))

namespace IsEntryName

variable {base name : String}

/-- A name is a single step. -/
theorem pathSteps_eq (hname : IsEntryName name) : pathSteps name = [name] := by
  rw [pathSteps, piecesAt, List.splitOn_eq_singleton hname.2, List.map_singleton,
    String.ofList_toList]

/-- A name goes through itself. -/
theorem pathNames_eq (hname : IsEntryName name) : pathNames name = [name] := by
  rw [pathNames, hname.pathSteps_eq]
  exact List.filter_eq_self.mpr fun step hstep =>
    decide_eq_true (List.mem_singleton.mp hstep ▸ ⟨hname.1.1, hname.1.2.1⟩)

/-- A name is a path of one component. -/
theorem pathComponents_eq (hname : IsEntryName name) : pathComponents name = [name] := by
  have hslash : name.startsWith slash = false :=
    startsWith_slash_eq_false fun hhead => hname.2 (List.mem_of_head? hhead)
  have hdot : (pathSteps name).head? ≠ some "." := by
    rw [hname.pathSteps_eq]
    exact fun hhead => hname.1.2.1 (Option.some.inj hhead)
  rw [pathComponents, pathStart, hslash, if_neg Bool.false_ne_true, if_neg hdot, hname.pathNames_eq]
  rfl

/-- A name stands behind one separator, whether the path before it ends with one or not. -/
theorem exists_toList_joinPath (hname : IsEntryName name) (hbase : base ≠ "") :
    ∃ before, (joinPath base name).toList = before ++ '/' :: name.toList ∧
      (base.toList = before ∨ base.toList = before ++ ['/']) := by
  have hhead : name.toList.head? ≠ some '/' := fun h => hname.2 (List.mem_of_head? h)
  by_cases hlast : base.toList.getLast? = some '/'
  · obtain ⟨before, hbefore⟩ := List.getLast?_eq_some_iff.mp hlast
    have hempty : base.isEmpty = false := by
      rwa [← Bool.not_eq_true, String.isEmpty_iff]
    have hends : base.endsWith slash = true := by
      rw [String.endsWith_eq_endsWith_toSlice, String.Slice.endsWith_string_iff, String.copy_toSlice]
      exact ⟨before, hbefore.symm⟩
    refine ⟨before, ?_, .inr hbefore⟩
    have hjoined : joinPath base name = base ++ name := by
      rw [joinPath, startsWith_slash_eq_false hhead, hempty, hends]
      rfl
    rw [hjoined, String.toList_append, hbefore, List.append_assoc]
    rfl
  · refine ⟨base.toList, ?_, .inl rfl⟩
    rw [joinPath_eq hbase hlast hhead, String.toList_append, String.toList_append, List.append_assoc]
    rfl

/-- A name below a path is one more step, but for a separator at the end of the path. -/
theorem exists_pathSteps_joinPath (hname : IsEntryName name) (hbase : base ≠ "") :
    ∃ steps, steps ≠ [] ∧ pathSteps (joinPath base name) = steps ++ [name] ∧
      (pathSteps base = steps ∨ pathSteps base = steps ++ [""]) := by
  obtain ⟨before, hjoined, hbefore⟩ := hname.exists_toList_joinPath hbase
  refine ⟨pathSteps (String.ofList before), pathSteps_ne_nil _, ?_, ?_⟩
  · rw [pathSteps_eq_of_toList hjoined, String.ofList_toList, hname.pathSteps_eq]
  · rcases hbefore with heq | heq
    · exact .inl (by rw [← heq, String.ofList_toList])
    · exact .inr (pathSteps_eq_of_toList heq)

/-- A name below a path does not change where the path starts. -/
theorem pathStart_joinPath (hname : IsEntryName name) (hbase : base ≠ "") :
    pathStart (joinPath base name) = pathStart base := by
  have hslash : (joinPath base name).startsWith slash = base.startsWith slash := by
    obtain ⟨before, hjoined, hbefore⟩ := hname.exists_toList_joinPath hbase
    have hne : base.toList ≠ [] := fun h => hbase (String.toList_eq_nil_iff.mp h)
    rw [Bool.eq_iff_iff, startsWith_slash_iff, startsWith_slash_iff, hjoined]
    rcases hbefore with heq | heq
    · obtain ⟨first, rest, hchars⟩ := List.exists_cons_of_ne_nil hne
      rw [← heq, hchars]
      rfl
    · rw [heq]
      cases before <;> rfl
  have hhead : (pathSteps (joinPath base name)).head? = (pathSteps base).head? := by
    obtain ⟨steps, hne, hjoined, hsteps⟩ := hname.exists_pathSteps_joinPath hbase
    obtain ⟨first, rest, rfl⟩ := List.exists_cons_of_ne_nil hne
    rw [hjoined]
    rcases hsteps with heq | heq
    · rw [heq]
      rfl
    · rw [heq]
      rfl
  rw [pathStart, hslash, hhead, pathStart]

/-- A name below a path is the last that the path goes through. -/
theorem pathNames_joinPath (hname : IsEntryName name) (hbase : base ≠ "") :
    pathNames (joinPath base name) = pathNames base ++ [name] := by
  obtain ⟨steps, -, hjoined, hsteps⟩ := hname.exists_pathSteps_joinPath hbase
  have hkept := hname.pathNames_eq
  rw [pathNames, hname.pathSteps_eq] at hkept
  rw [pathNames, pathNames, hjoined, List.filter_append, hkept]
  rcases hsteps with heq | heq
  · rw [heq]
  · rw [heq, List.filter_append]
    exact congrArg (· ++ [name]) (List.append_nil _).symm

/-- A name below a path adds one component to those of the path. -/
theorem pathComponents_joinPath (hname : IsEntryName name) (hbase : base ≠ "") :
    pathComponents (joinPath base name) = pathComponents base ++ [name] := by
  rw [pathComponents, hname.pathStart_joinPath hbase, hname.pathNames_joinPath hbase,
    ← List.append_assoc, pathComponents]

/-- The extension of a path is that of its last name. -/
theorem extension?_joinPath (hname : IsEntryName name) (hbase : base ≠ "") :
    extension? (joinPath base name) = extension? name := by
  have hlast : (pathNames (joinPath base name)).getLast? = (pathNames name).getLast? := by
    rw [hname.pathNames_joinPath hbase, hname.pathNames_eq, List.getLast?_concat,
      List.getLast?_singleton]
  rw [pathNames, pathNames] at hlast
  rw [extension?, extension?, hlast]

/-- The path of a name below any path is not empty. -/
theorem joinPath_ne_empty (hname : IsEntryName name) : joinPath base name ≠ "" := by
  by_cases hbase : base = ""
  · subst hbase
    rw [joinPath_empty]
    exact hname.1.1
  · obtain ⟨before, hjoined, -⟩ := hname.exists_toList_joinPath hbase
    intro h
    rw [h] at hjoined
    exact List.append_ne_nil_of_right_ne_nil before (List.cons_ne_nil _ _) hjoined.symm

end IsEntryName

variable {directory : String} {names : List String}

/-- The path of names below a path is not empty. -/
theorem foldl_joinPath_ne_empty (hdirectory : directory ≠ "")
    (hnames : ∀ name ∈ names, IsEntryName name) :
    names.foldl joinPath directory ≠ "" := by
  induction names generalizing directory with
  | nil => exact hdirectory
  | cons name rest ih =>
    obtain ⟨hname, hrest⟩ := List.forall_mem_cons.mp hnames
    exact ih hname.joinPath_ne_empty hrest

/-- Names below a directory are the last components. -/
theorem pathComponents_foldl_joinPath (hdirectory : directory ≠ "")
    (hnames : ∀ name ∈ names, IsEntryName name) :
    pathComponents (names.foldl joinPath directory) = pathComponents directory ++ names := by
  induction names generalizing directory with
  | nil => exact (List.append_nil _).symm
  | cons name rest ih =>
    obtain ⟨hname, hrest⟩ := List.forall_mem_cons.mp hnames
    rw [List.foldl_cons, ih hname.joinPath_ne_empty hrest, hname.pathComponents_joinPath hdirectory,
      List.append_assoc, List.singleton_append]

namespace DataFormat

/-- A file is in JSON when its extension says so. -/
theorem ofPath?_eq_json {path : String} :
    ofPath? path = some json ↔ extension? path = some "json" := by
  rw [ofPath?]
  split <;> simp_all

/-- A file is in YAML when its extension says so. -/
theorem ofPath?_eq_yaml {path : String} :
    ofPath? path = some yaml ↔ extension? path = some "yaml" ∨ extension? path = some "yml" := by
  rw [ofPath?]
  split <;> simp_all

end DataFormat

/-- Whether a name is that of a fragment is seen from its extension. -/
theorem isFragmentName_iff {name : String} :
    isFragmentName name ↔ extension? name ∈ [some "json", some "yaml", some "yml"] := by
  have hextension : extension? name ∈ [some "json", some "yaml", some "yml"] ↔
      DataFormat.ofPath? name = some .json ∨ DataFormat.ofPath? name = some .yaml := by
    rw [DataFormat.ofPath?_eq_json, DataFormat.ofPath?_eq_yaml]
    simp
  rw [hextension, isFragmentName]
  split <;> simp_all

end ComponentAtlas
