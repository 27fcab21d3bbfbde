import ComponentAtlas.Proofs.KeyedLists
import ComponentAtlas.Proofs.PathWalks

/-!
# Directories of a file system

A file system has finitely many directories, each at a location of its own, and names that a path can
spell. A walk from a directory ends at the location of what it finds, which is never a link, and to
walk down by one name is to look up the name, unless it is that of a link.
-/

namespace ComponentAtlas

/-- Whether a name can stand in a directory: it leads down, and it is a single step of a path. -/
def IsEntryName (name : String) : Prop :=
  LeadsDown name ∧ '/' ∉ name.toList

instance : DecidablePred IsEntryName := fun _ => inferInstanceAs (Decidable (_ ∧ _))

/-- A package is named by what can stand in a directory, without the other separator. -/
theorem isPackageName_iff {package : String} :
    isPackageName package ↔ IsEntryName package ∧ '\\' ∉ package.toList := by
  have hchars : (package.toList.any fun c => c = '/' || c = '\\') = false ↔
      '/' ∉ package.toList ∧ '\\' ∉ package.toList := by
    rw [List.any_eq_false]
    constructor
    · intro h
      exact ⟨fun hslash => h _ hslash rfl, fun hslash => h _ hslash rfl⟩
    · rintro ⟨hslash, hother⟩ c hc hsep
      rcases Bool.or_eq_true_iff.mp hsep with heq | heq
      · exact hslash (of_decide_eq_true heq ▸ hc)
      · exact hother (of_decide_eq_true heq ▸ hc)
  rw [isPackageName, Bool.and_eq_true, Bool.and_eq_true, Bool.and_eq_true, Bool.not_eq_true', hchars,
    decide_eq_true_iff, decide_eq_true_iff, decide_eq_true_iff, IsEntryName, LeadsDown]
  simp only [and_assoc]

mutual

/-- The directories at and below an entry, each with its location. -/
def directoriesFrom (location : Location) : FileEntry → List (Location × Directory)
  | .directory entries => (location, entries) :: directoriesAmong location entries
  | _ => []

/-- The directories at and below entries of a directory, each with its location. -/
def directoriesAmong (location : Location) : List (String × FileEntry) → List (Location × Directory)
  | [] => []
  | (name, entry) :: rest =>
    directoriesFrom (location ++ [name]) entry ++ directoriesAmong location rest

end

namespace FileSystem

mutual

/-- There are as many directories at and below an entry as the walk of fragments counts. -/
theorem length_directoriesFrom (location : Location) :
    ∀ entry, (directoriesFrom location entry).length = directoriesAt entry
  | .directory entries => by
    rw [directoriesFrom, directoriesAt, List.length_cons, length_directoriesAmong, Nat.add_comm]
  | .file _ => rfl
  | .link _ => rfl

/-- There are as many directories at and below entries as the walk of fragments counts. -/
theorem length_directoriesAmong (location : Location) :
    ∀ entries, (directoriesAmong location entries).length = directoriesBelow entries
  | [] => rfl
  | (name, entry) :: rest => by
    rw [directoriesAmong, directoriesBelow, List.length_append, length_directoriesFrom,
      length_directoriesAmong]

end

/-- The directories at and below an entry are among those of the directory it stands in. -/
theorem directoriesFrom_subset {location : Location} {entries : Directory} {name : String}
    {entry : FileEntry} (h : (name, entry) ∈ entries) :
    directoriesFrom (location ++ [name]) entry ⊆ directoriesAmong location entries := by
  induction entries with
  | nil => cases h
  | cons first rest ih =>
    obtain ⟨key, other⟩ := first
    rw [directoriesAmong]
    rcases List.mem_cons.mp h with heq | hrest
    · cases heq
      exact List.subset_append_left _ _
    · exact List.Subset.trans (ih hrest) (List.subset_append_right _ _)

/-- A directory that stands below entries is one of their directories. -/
theorem mem_directoriesFrom {entries inner : Directory} {location below : Location}
    (h : entryBelow? entries below = some (.directory inner)) :
    (location ++ below, inner) ∈ directoriesFrom location (.directory entries) := by
  induction below generalizing entries location with
  | nil =>
    cases h
    rw [List.append_nil, directoriesFrom]
    exact List.mem_cons_self
  | cons name rest ih =>
    have hdescend : ∀ {middle : Directory}, entries.find? name = some (.directory middle) →
        entryBelow? middle rest = some (.directory inner) →
        (location ++ name :: rest, inner) ∈ directoriesFrom location (.directory entries) := by
      intro middle hfind hmiddle
      have hmem : (location ++ [name] ++ rest, inner) ∈
          directoriesFrom (location ++ [name]) (.directory middle) := ih hmiddle
      rw [List.append_assoc, List.singleton_append] at hmem
      rw [directoriesFrom]
      exact List.mem_cons_of_mem _ (directoriesFrom_subset (Keyed.mem_of_find? hfind) hmem)
    rcases entryBelow?_cons_eq_some h with ⟨rfl, hfind⟩ | ⟨middle, hfind, hmiddle⟩
    · exact hdescend hfind rfl
    · exact hdescend hfind hmiddle

/-- All directories of a file system, each with its location. -/
def directories (files : FileSystem) : List (Location × Directory) :=
  directoriesFrom [] (.directory files.root)

/-- The directories of a file system are the root and those below it. -/
theorem length_directories (files : FileSystem) :
    files.directories.length = directoriesBelow files.root + 1 := by
  rw [directories, length_directoriesFrom, directoriesAt, Nat.add_comm]

variable {files : FileSystem} {location : Location} {entries : Directory}

/-- A directory is listed with the location at which it stands. -/
theorem mem_directories (h : files.entryAt? location = some (.directory entries)) :
    (location, entries) ∈ files.directories := by
  have hmem : ([] ++ location, entries) ∈ files.directories := mem_directoriesFrom h
  rwa [List.nil_append] at hmem

/-- Whether every directory holds different names, all of which can stand in a directory. -/
def WellNamed (files : FileSystem) : Prop :=
  ∀ location (entries : Directory), files.entryAt? location = some (.directory entries) →
    entries.Distinct ∧ ∀ name ∈ Keyed.keys entries, IsEntryName name

/-- The names of a file system can be looked through one directory after the other. -/
theorem wellNamed_of_directories
    (h : ∀ directory ∈ files.directories,
      (Keyed.keys directory.2).Nodup ∧ ∀ name ∈ Keyed.keys directory.2, IsEntryName name) :
    files.WellNamed :=
  fun location entries hentries => h (location, entries) (mem_directories hentries)

/-- On the way to a location there are directories only. -/
theorem exists_directory_of_prefix {root : Directory} {before after : Location} {entry : FileEntry}
    (h : entryBelow? root (before ++ after) = some entry) (hafter : after ≠ []) :
    ∃ inner, entryBelow? root before = some (.directory inner) := by
  induction before generalizing root with
  | nil => exact ⟨root, rfl⟩
  | cons name rest ih =>
    rcases entryBelow?_cons_eq_some h with ⟨hnil, -⟩ | ⟨middle, hfind, hmiddle⟩
    · exact absurd (List.append_eq_nil_iff.mp hnil).2 hafter
    · obtain ⟨inner, hinner⟩ := ih hmiddle
      exact ⟨inner, (entryBelow?_cons_of_directory hfind rest).trans hinner⟩

/-- What stands around an entry is a directory, and so is the root itself. -/
theorem exists_directory_of_dropLast {entry : FileEntry} (h : files.entryAt? location = some entry) :
    ∃ inner, files.entryAt? location.dropLast = some (.directory inner) := by
  by_cases hnil : location = []
  · subst hnil
    exact ⟨files.root, rfl⟩
  · have hlast : entryBelow? files.root (location.dropLast ++ [location.getLast hnil]) =
        some entry := by
      rw [List.dropLast_concat_getLast]
      exact h
    exact exists_directory_of_prefix hlast (List.cons_ne_nil _ _)

/-- What a walk finds stands at the location that it ends at. -/
theorem entryAt?_of_walk {links : Nat} {steps : List String} {found : Location × FileEntry}
    (h : files.walk links location steps = .ok found) : files.entryAt? found.1 = some found.2 := by
  fun_induction files.walk links location steps with
  | case1 | case5 | case6 | case9 => cases h
  | case2 _ _ _ hentry =>
    cases h
    exact hentry
  | case3 _ _ _ _ _ _ _ ih | case4 _ _ _ _ _ _ ih | case7 _ _ _ _ _ _ _ _ _ _ ih
  | case8 _ _ _ _ _ _ _ _ _ _ _ ih => exact ih h

/-- A walk from a directory does not end at a link. -/
theorem isNoLink_of_walk {links : Nat} {steps : List String} {found : Location × FileEntry}
    (hlocation : ∀ target, files.entryAt? location ≠ some (.link target))
    (h : files.walk links location steps = .ok found) : found.2.IsNoLink := by
  fun_induction files.walk links location steps with
  | case1 | case5 | case6 | case9 => cases h
  | case2 _ location entry hentry =>
    cases h
    rintro target rfl
    exact hlocation target hentry
  | case3 _ _ _ _ _ _ _ ih => exact ih hlocation h
  | case4 _ location _ _ hentries _ ih =>
    refine ih (fun target hlink => ?_) h
    obtain ⟨inner, hinner⟩ := exists_directory_of_dropLast hentries
    rw [hinner] at hlink
    cases hlink
  | case7 location _ _ _ hentries _ _ target _ _ ih =>
    refine ih (fun other hlink => ?_) h
    rw [start] at hlink
    split at hlink
    · cases hlink
    · exact hlocation other hlink
  | case8 _ location _ step _ hentries _ _ entry hentry hfind ih =>
    refine ih (fun target hlink => ?_) h
    rw [entryAt?, entryBelow?_append hentries, hfind] at hlink
    exact hentry target (Option.some.inj hlink)

end FileSystem

/-- A file system in which every directory holds different names that can stand in it. -/
structure NamedFiles extends FileSystem where
  wellNamed : toFileSystem.WellNamed

instance : Coe NamedFiles FileSystem := ⟨NamedFiles.toFileSystem⟩

namespace NamedFiles

variable {location : Location} {entries : Directory}

/-- No directory holds two entries of one name. -/
theorem distinct (files : NamedFiles)
    (h : files.entryAt? location = some (.directory entries)) : entries.Distinct :=
  (files.wellNamed location entries h).1

/-- The names in a directory are names that can stand in one. -/
theorem isEntryName (files : NamedFiles)
    (h : files.entryAt? location = some (.directory entries)) {name : String}
    (hname : name ∈ Keyed.keys entries) : IsEntryName name :=
  (files.wellNamed location entries h).2 name hname

end NamedFiles

end ComponentAtlas
