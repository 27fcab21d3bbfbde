import ComponentAtlas.Proofs.PathComponents

/-!
# Files that are put in place

Directories are made, files written and entries removed by changing one directory at a time. The
names that a change brings in are steps of a path, so every directory goes on to hold different names
that can stand in it, as long as no path ends in a step that leads nowhere or up.
-/

namespace ComponentAtlas

/-- No piece of a list that is split has the item that it is split at. -/
theorem not_mem_of_mem_splitOn {α : Type} [BEq α] [LawfulBEq α] {separator : α}
    {items piece : List α} (h : piece ∈ items.splitOn separator) : separator ∉ piece := by
  induction items generalizing piece with
  | nil =>
    obtain rfl := List.mem_singleton.mp h
    exact List.not_mem_nil
  | cons item rest ih =>
    rw [List.splitOn_cons_eq_if_modifyHead] at h
    split at h
    · rcases List.mem_cons.mp h with rfl | hrest
      · exact List.not_mem_nil
      · exact ih hrest
    · rename_i hitem
      obtain ⟨first, others, hsplit⟩ :=
        List.exists_cons_of_ne_nil (List.splitOn_ne_nil separator rest)
      have hpieces : ∀ other ∈ first :: others, separator ∉ other := by
        rw [← hsplit]
        exact fun other => ih
      rw [hsplit, List.modifyHead_cons] at h
      rcases List.mem_cons.mp h with rfl | hothers
      · rintro (_ | ⟨_, hfirst⟩)
        · exact hitem (beq_self_eq_true separator)
        · exact hpieces first List.mem_cons_self hfirst
      · exact hpieces piece (List.mem_cons_of_mem first hothers)

/-- The last item of a list that has one does not depend on what stands for none. -/
theorem getLastD_eq_getLast {α : Type} {items : List α} (h : items ≠ []) (fallback : α) :
    items.getLastD fallback = items.getLast h := by
  rw [List.getLastD_eq_getLast?, List.getLast?_eq_some_getLast h, Option.getD_some]

/-- The steps of a path have no separator in them. -/
theorem slash_not_mem_of_mem_pathSteps {path step : String} (h : step ∈ pathSteps path) :
    '/' ∉ step.toList := by
  obtain ⟨piece, hpiece, rfl⟩ := List.mem_map.mp h
  rw [String.toList_ofList]
  exact not_mem_of_mem_splitOn hpiece

namespace FileSystem

/-- Whether a directory and all directories below it hold different names that can stand in them. -/
def WellNamedBelow (root : Directory) : Prop :=
  WellNamed { root }

section Below

variable {root : Directory} {name : String} {entry : FileEntry}

/-- A directory is well named when its names are good and all directories in it are well named. -/
theorem wellNamedBelow_iff : WellNamedBelow root ↔
    (root.Distinct ∧ ∀ name ∈ Keyed.keys root, IsEntryName name) ∧
      ∀ name inner, root.find? name = some (.directory inner) → WellNamedBelow inner := by
  constructor
  · refine fun h => ⟨h [] root rfl, fun name inner hinner location entries hentries => ?_⟩
    exact h (name :: location) entries
      ((entryBelow?_cons_of_directory hinner location).trans hentries)
  · rintro ⟨hroot, hbelow⟩ location entries hentries
    cases location with
    | nil =>
      cases hentries
      exact hroot
    | cons name rest =>
      rcases entryBelow?_cons_eq_some hentries with ⟨-, hfind⟩ | ⟨middle, hfind, hmiddle⟩
      · exact hbelow name entries hfind [] entries rfl
      · exact hbelow name middle hfind rest entries hmiddle

/-- An empty directory is well named. -/
theorem WellNamedBelow.nil : WellNamedBelow [] :=
  wellNamedBelow_iff.mpr ⟨⟨Keyed.distinct_nil, fun _ hname => absurd hname List.not_mem_nil⟩,
    fun _ _ hfind => by cases hfind⟩

/-- A directory stays well named when an entry of a good name is put into it. -/
theorem WellNamedBelow.insert (h : WellNamedBelow root) (hname : IsEntryName name)
    (hentry : ∀ inner, entry = .directory inner → WellNamedBelow inner) :
    WellNamedBelow (Keyed.insert root name entry) := by
  obtain ⟨⟨hdistinct, hnames⟩, hbelow⟩ := wellNamedBelow_iff.mp h
  refine wellNamedBelow_iff.mpr ⟨⟨hdistinct.insert name entry, ?_⟩, fun other inner hinner => ?_⟩
  · rw [Keyed.keys_insert]
    split
    · exact hnames
    · exact List.forall_mem_append.mpr ⟨hnames, List.forall_mem_singleton.mpr hname⟩
  · rw [Keyed.find?_insert] at hinner
    split at hinner
    · exact hentry inner (Option.some.inj hinner)
    · exact hbelow other inner hinner

/-- A directory stays well named when entries are taken out of it. -/
theorem WellNamedBelow.filter (h : WellNamedBelow root) (keep : String × FileEntry → Bool) :
    WellNamedBelow (root.filter keep) := by
  obtain ⟨⟨hdistinct, hnames⟩, hbelow⟩ := wellNamedBelow_iff.mp h
  have hkeys : (Keyed.keys (root.filter keep)).Sublist (Keyed.keys root) :=
    List.filter_sublist.map Prod.fst
  refine wellNamedBelow_iff.mpr ⟨⟨hdistinct.sublist hkeys, fun name hname => ?_⟩, ?_⟩
  · exact hnames name (hkeys.subset hname)
  · intro name inner hinner
    have hmem := (List.mem_filter.mp (Keyed.mem_of_find? hinner)).1
    exact hbelow name inner (Keyed.find?_of_mem hdistinct hmem)

/-- A directory stays well named when a directory below it is changed to one that is. -/
theorem WellNamedBelow.changeBelow {change : Directory → Directory} {location : Location}
    (h : WellNamedBelow root) (hchange : ∀ entries, entryBelow? root location =
      some (.directory entries) → WellNamedBelow entries → WellNamedBelow (change entries)) :
    WellNamedBelow (changeBelow change location root) := by
  induction location generalizing root with
  | nil => exact hchange root rfl h
  | cons name rest ih =>
    rw [FileSystem.changeBelow]
    split
    · rename_i inner hfind
      obtain ⟨⟨-, hnames⟩, hbelow⟩ := wellNamedBelow_iff.mp h
      have hinner := ih (hbelow name inner hfind) fun entries hentries =>
        hchange entries ((entryBelow?_cons_of_directory hfind rest).trans hentries)
      refine h.insert (hnames name (Keyed.mem_keys_of_find? hfind)) ?_
      rintro _ ⟨⟩
      exact hinner
    · exact h

end Below

variable {files : FileSystem} {location : Location} {entries : Directory} {name : String}

/-- A step that does not lead down leads from a directory to a directory. -/
theorem exists_walk_of_not_leadsDown (hentries : files.entryAt? location = some (.directory entries))
    (hname : ¬LeadsDown name) (links : Nat) :
    ∃ found inner, files.walk links location [name] = .ok (found, .directory inner) := by
  rw [walk.eq_def, hentries]
  by_cases hhere : name = "" ∨ name = "."
  · exact ⟨location, entries, (if_pos hhere).trans (walk_nil hentries links)⟩
  · have hup : name = ".." := Classical.byContradiction fun hup =>
      hname ⟨fun h => hhere (.inl h), fun h => hhere (.inr h), hup⟩
    obtain ⟨around, haround⟩ := exists_directory_of_dropLast hentries
    exact ⟨location.dropLast, around,
      ((if_neg hhere).trans (if_pos hup)).trans (walk_nil haround links)⟩

/-- What a path leads to stands at the location that it leads to. -/
theorem entryAt?_of_locate {path : String} {found : Location × FileEntry}
    (h : files.locate path = .ok found) : files.entryAt? found.1 = some found.2 := by
  rw [locate] at h
  split at h
  · cases h
  · exact entryAt?_of_walk h

/-- A file stands under the last name of its location in the directory around it. -/
theorem find?_getLastD {content : ByteArray}
    (hentries : files.entryAt? location.dropLast = some (.directory entries))
    (hfile : files.entryAt? location = some (.file content)) :
    entries.find? (location.getLastD "") = some (.file content) := by
  have hlocation : location ≠ [] := by
    rintro rfl
    cases hfile
  rw [getLastD_eq_getLast hlocation]
  rw [← List.dropLast_concat_getLast hlocation] at hfile
  exact (entryBelow?_append hentries _).symm.trans hfile

/-- A file system without files is well named. -/
theorem wellNamed_empty (workingDirectory : Location) :
    FileSystem.WellNamed { workingDirectory } :=
  WellNamedBelow.nil

namespace WellNamed

/-- A file system stays well named when one of its directories is changed to one that is. -/
theorem change (h : files.WellNamed) {change : Directory → Directory}
    (hchange : ∀ entries, files.entryAt? location = some (.directory entries) →
      WellNamedBelow entries → WellNamedBelow (change entries)) :
    (files.change location change).WellNamed :=
  WellNamedBelow.changeBelow h hchange

/-- To enter a directory, even one that has to be made, keeps a file system well named. -/
theorem enter (h : files.WellNamed) (hname : '/' ∉ name.toList) :
    (FileSystem.enter (files, location) name).1.WellNamed := by
  rw [FileSystem.enter]
  split
  · exact h
  · rename_i hwalk
    refine h.change fun entries hentries hbelow => hbelow.insert ⟨?_, hname⟩ ?_
    · refine Classical.byContradiction fun hdown => ?_
      obtain ⟨found, inner, hfound⟩ := exists_walk_of_not_leadsDown hentries hdown maxLinks
      exact hwalk found inner hfound
    · rintro _ ⟨⟩
      exact .nil

/-- To enter one directory after the other keeps a file system well named. -/
theorem foldl_enter {names : List String} (h : files.WellNamed)
    (hnames : ∀ name ∈ names, '/' ∉ name.toList) :
    (names.foldl FileSystem.enter (files, location)).1.WellNamed := by
  induction names generalizing files location with
  | nil => exact h
  | cons name rest ih =>
    obtain ⟨hname, hrest⟩ := List.forall_mem_cons.mp hnames
    exact ih (h.enter hname) hrest

/-- The directories of any path can be made. -/
theorem makeDirectory (h : files.WellNamed) (path : String) :
    (files.makeDirectory path).WellNamed :=
  h.foldl_enter fun _ => slash_not_mem_of_mem_pathSteps

/-- An entry can be put at a path whose last step leads down. -/
theorem put (h : files.WellNamed) {path : String} {entry : FileEntry}
    (hlast : LeadsDown ((pathSteps path).getLastD ""))
    (hentry : ∀ inner, entry = .directory inner → WellNamedBelow inner) :
    (files.put path entry).WellNamed := by
  have hslash : '/' ∉ ((pathSteps path).getLastD "").toList := by
    rw [getLastD_eq_getLast (pathSteps_ne_nil path)]
    exact slash_not_mem_of_mem_pathSteps (List.getLast_mem _)
  have hfolders : ((pathSteps path).dropLast.foldl FileSystem.enter
      (files, start files.workingDirectory path)).1.WellNamed :=
    h.foldl_enter fun step hstep =>
      slash_not_mem_of_mem_pathSteps (List.dropLast_subset _ hstep)
  exact hfolders.change fun _ _ hbelow => hbelow.insert ⟨hlast, hslash⟩ hentry

/-- A file can be written to a path whose last step leads down. -/
theorem write (h : files.WellNamed) {path : String}
    (hlast : LeadsDown ((pathSteps path).getLastD "")) (content : ByteArray) :
    (files.write path content).WellNamed := by
  rw [FileSystem.write]
  split
  · rename_i location other hlocate
    have hname : ∀ entries, files.entryAt? location.dropLast = some (.directory entries) →
        IsEntryName (location.getLastD "") := fun entries hentries =>
      (h _ entries hentries).2 _
        (Keyed.mem_keys_of_find? (find?_getLastD hentries (entryAt?_of_locate hlocate)))
    exact h.change fun entries hentries hbelow =>
      hbelow.insert (hname entries hentries) fun _ => FileEntry.noConfusion
  · exact h.put hlast fun _ => FileEntry.noConfusion

/-- What stands at a path can be removed. -/
theorem remove (h : files.WellNamed) (path : String) : (files.remove path).WellNamed := by
  rw [FileSystem.remove]
  split
  · exact h.change fun _ _ hbelow => hbelow.filter _
  · exact h

end WellNamed

end FileSystem

end ComponentAtlas
