import ComponentAtlas.Proofs.FragmentPrecedence
import ComponentAtlas.Proofs.PackageFaults

/-!
# Packages that are listed

Packages are listed by what stands below the root, and they are opened by a check of their names. The
two agree on every name without a backslash: such a package is opened when it is listed. A directory
whose name has a backslash is listed, and to open it is refused.
-/

namespace ComponentAtlas

/-- Sorting texts leaves out none and adds none. -/
theorem mem_sortedTexts {text : String} {texts : List String} :
    text ∈ sortedTexts texts ↔ text ∈ texts :=
  (List.mergeSort_perm texts _).mem_iff

namespace DirectoryFragments

variable {fragments : DirectoryFragments} {names : List String} {name package : String}

/-- What is listed is the name of an entry, and a directory. -/
theorem isEntryName_of_mem_packages {fragments : NamedFragments}
    (h : fragments.packages = .ok names) (hname : name ∈ names) :
    IsEntryName name ∧ fragments.files.isDirectory (fragments.directoryOf name) := by
  rw [packages] at h
  split at h
  · cases h
  · rename_i location entries hlist
    cases h
    obtain ⟨hkey, hlisted⟩ := List.mem_filter.mp (mem_sortedTexts.mp hname)
    have hentries := FileSystem.entryAt?_of_list hlist
    exact ⟨fragments.namedFiles.isEntryName hentries hkey, (Bool.and_eq_true_iff.mp hlisted).1⟩

/-- A directory whose name is accepted is not unknown, whatever else goes wrong with it. -/
theorem ofPackage_ne_unknownPackage (hpackage : isPackageName package)
    (hdirectory : fragments.files.isDirectory (fragments.directoryOf package)) (other : String) :
    fragments.ofPackage package ≠ .error (.unknownPackage other) := by
  have hlist : ∃ found, fragments.files.list (fragments.directoryOf package) = .ok found := by
    rw [FileSystem.isDirectory] at hdirectory
    rw [FileSystem.list]
    split at hdirectory
    · rename_i hlocate
      exact ⟨_, by rw [hlocate]⟩
    · cases hdirectory
  obtain ⟨found, hlist⟩ := hlist
  intro h
  obtain ⟨path, ⟨_, hfault⟩ | ⟨_, hfault⟩⟩ := failsToRead_of_list hpackage hlist h
  · cases hfault
  · cases hfault

/-- The merged tree of a package is refused for an unknown package when its fragments are. -/
theorem mergedTree_eq_unknownPackage {policy : MergePolicy} {other : String} :
    (FragmentSource.directory fragments).mergedTree policy package = .error (.unknownPackage other) ↔
      fragments.ofPackage package = .error (.unknownPackage other) := by
  constructor
  · intro h
    rcases FragmentSource.mergedTree_fault h with hfragments | ⟨_, _, _, hfault⟩ | ⟨_, hfault⟩
    · exact hfragments
    · cases hfault
    · cases hfault
  · intro h
    exact bind_eq_error.mpr (.inl h)

/-- Without a default the first of the listed packages is chosen. -/
theorem mem_packages_of_resolvePackage {settings : Settings}
    (hdefault : settings.defaultPackage = none)
    (h : Inspector.resolvePackage ⟨.directory fragments, settings⟩ none = .ok name) :
    ∃ names, fragments.packages = .ok names ∧ name ∈ names := by
  rw [Inspector.resolvePackage, hdefault] at h
  obtain ⟨names, hnames, hfirst⟩ := bind_eq_ok.mp h
  refine ⟨names, hnames, ?_⟩
  split at hfirst
  · rename_i first hhead
    cases hfirst
    exact List.mem_of_head? hhead
  · cases hfirst

/-- A listed package is unknown exactly when its name has a backslash, whether it is asked for by name
or chosen as the first of all. -/
theorem listed_package_unknown_iff (fragments : NamedFragments) :
    (∀ names name, fragments.packages = .ok names → name ∈ names →
      ((∃ other, fragments.ofPackage name = .error (.unknownPackage other)) ↔ '\\' ∈ name.toList)) ∧
    ∀ (settings : Settings) name, settings.defaultPackage = none →
      Inspector.resolvePackage ⟨.directory fragments, settings⟩ none = .ok name →
        ((∃ other, Inspector.mergedTree ⟨.directory fragments, settings⟩ name =
          .error (.unknownPackage other)) ↔ '\\' ∈ name.toList) := by
  have hlisted : ∀ names name, fragments.packages = .ok names → name ∈ names →
      ((∃ other, fragments.ofPackage name = .error (.unknownPackage other)) ↔
        '\\' ∈ name.toList) := by
    intro names name hnames hname
    obtain ⟨hentry, hdirectory⟩ := isEntryName_of_mem_packages hnames hname
    constructor
    · rintro ⟨other, hunknown⟩
      refine Classical.byContradiction fun hchars => ?_
      have hpackage := isPackageName_iff.mpr ⟨hentry, hchars⟩
      exact ofPackage_ne_unknownPackage hpackage hdirectory other hunknown
    · intro hchars
      have hrefused : ¬isPackageName name := by
        rw [isPackageName_iff]
        exact fun h => h.2 hchars
      exact ⟨name, ofPackage_of_not_isPackageName hrefused⟩
  refine ⟨hlisted, fun settings name hdefault hresolved => ?_⟩
  obtain ⟨names, hnames, hname⟩ := mem_packages_of_resolvePackage hdefault hresolved
  rw [← hlisted names name hnames hname]
  exact exists_congr fun other => mergedTree_eq_unknownPackage

section Single

/-- A root with a single package, which has no fragments. -/
def singlePackage (name : String) : DirectoryFragments where
  files := { root := [("frag", .directory [(name, .directory [])])] }
  root := "frag"

/-- The directory of the fragments lists the package alone. -/
theorem singlePackage_list :
    (singlePackage name).files.list "frag" = .ok (["frag"], [(name, .directory [])]) := by
  have hlocate : (singlePackage name).files.locate "frag" =
      .ok (["frag"], .directory [(name, .directory [])]) :=
    FileSystem.locate_of_entryBelow? (by decide) rfl (by decide) rfl fun _ => FileEntry.noConfusion
  rw [FileSystem.list, hlocate]

/-- The package is a directory, whatever can stand in one it is called. -/
theorem singlePackage_isDirectory (hname : IsEntryName name) :
    (singlePackage name).files.isDirectory (joinPath "frag" name) = true := by
  have hpath : joinPath "frag" name = "frag" ++ slash ++ name :=
    joinPath_eq (by decide) (by decide) fun hhead => hname.2 (List.mem_of_head? hhead)
  have hchars : (joinPath "frag" name).toList = "frag".toList ++ '/' :: name.toList := by
    rw [hpath, String.toList_append, String.toList_append, List.append_assoc]
    rfl
  have hsteps : pathSteps (joinPath "frag" name) = ["frag", name] := by
    rw [pathSteps_eq_of_toList hchars, String.ofList_toList, String.ofList_toList,
      hname.pathSteps_eq]
    rfl
  have hrelative : (joinPath "frag" name).toList.head? ≠ some '/' := by
    rw [hchars]
    exact fun h => nomatch h
  have hdown : ∀ step ∈ ["frag", name], LeadsDown step :=
    List.forall_mem_cons.mpr ⟨by decide, List.forall_mem_singleton.mpr hname.1⟩
  have hbelow : FileSystem.entryBelow? (singlePackage name).files.root ["frag", name] =
      some (.directory []) := if_pos rfl
  rw [← hsteps] at hdown hbelow
  rw [FileSystem.isDirectory,
    FileSystem.locate_of_entryBelow? hrelative rfl hdown hbelow fun _ => FileEntry.noConfusion]

/-- The package is listed unless it is hidden. -/
theorem singlePackage_packages (hname : IsEntryName name) (hhead : name.toList.head? ≠ some '.') :
    (singlePackage name).packages = .ok [name] := by
  have hdot : name.startsWith "." = false := by
    rw [String.startsWith_string_eq_false_iff]
    rintro ⟨rest, hrest⟩
    exact hhead (hrest ▸ rfl)
  have hlist : (singlePackage name).files.list (singlePackage name).root =
      .ok (["frag"], [(name, .directory [])]) := singlePackage_list
  have hdirectory : (singlePackage name).files.isDirectory ((singlePackage name).directoryOf name) =
      true := singlePackage_isDirectory hname
  rw [packages, hlist]
  simp only [Keyed.keys_cons, Keyed.keys_nil, List.filter_cons, hdirectory, hdot, Bool.not_false,
    Bool.and_self, if_true, List.filter_nil]
  exact congrArg Except.ok (List.mergeSort_singleton name)

/-- The package is the one to look at when none is named. -/
theorem singlePackage_resolvePackage (hname : IsEntryName name)
    (hhead : name.toList.head? ≠ some '.') :
    Inspector.resolvePackage ⟨.directory (singlePackage name), {}⟩ none = .ok name :=
  bind_eq_ok.mpr ⟨[name], singlePackage_packages hname hhead, rfl⟩

/-- A package without a backslash in its name is not unknown, whether it is asked for by name or
chosen as the first of all. -/
theorem listed_package_unknown_iff_of_site :
    (∀ other, (singlePackage "Vendor.Site").ofPackage "Vendor.Site" ≠
      .error (.unknownPackage other)) ∧
    ∀ other, Inspector.mergedTree ⟨.directory (singlePackage "Vendor.Site"), {}⟩ "Vendor.Site" ≠
      .error (.unknownPackage other) := by
  have hfiles : (singlePackage "Vendor.Site").files.WellNamed :=
    FileSystem.wellNamed_of_directories (by decide)
  have hnone : '\\' ∉ "Vendor.Site".toList := by decide
  obtain ⟨hnamed, hchosen⟩ := listed_package_unknown_iff ⟨singlePackage "Vendor.Site", hfiles⟩
  refine ⟨fun other h => hnone ?_, fun other h => hnone ?_⟩
  · have hpackages : (singlePackage "Vendor.Site").packages = .ok ["Vendor.Site"] :=
      singlePackage_packages (by decide) (by decide)
    exact (hnamed _ _ hpackages (List.mem_singleton_self _)).mp ⟨other, h⟩
  · have hresolved : Inspector.resolvePackage ⟨.directory (singlePackage "Vendor.Site"), {}⟩ none =
        .ok "Vendor.Site" := singlePackage_resolvePackage (by decide) (by decide)
    exact (hchosen {} _ rfl hresolved).mp ⟨other, h⟩

/-- A directory with a backslash in its name is listed and chosen, and it is refused as unknown. -/
theorem listed_package_refused :
    (singlePackage "Vendor\\Site").files.WellNamed ∧
    (singlePackage "Vendor\\Site").packages = .ok ["Vendor\\Site"] ∧
    (singlePackage "Vendor\\Site").ofPackage "Vendor\\Site" =
      .error (.unknownPackage "Vendor\\Site") ∧
    Inspector.resolvePackage ⟨.directory (singlePackage "Vendor\\Site"), {}⟩ none =
      .ok "Vendor\\Site" ∧
    Inspector.mergedTree ⟨.directory (singlePackage "Vendor\\Site"), {}⟩ "Vendor\\Site" =
      .error (.unknownPackage "Vendor\\Site") := by
  have hrefused : (singlePackage "Vendor\\Site").ofPackage "Vendor\\Site" =
      .error (.unknownPackage "Vendor\\Site") := ofPackage_of_not_isPackageName (by decide)
  exact ⟨FileSystem.wellNamed_of_directories (by decide),
    singlePackage_packages (by decide) (by decide), hrefused,
    singlePackage_resolvePackage (by decide) (by decide), mergedTree_eq_unknownPackage.mpr hrefused⟩

end Single

end DirectoryFragments

end ComponentAtlas
