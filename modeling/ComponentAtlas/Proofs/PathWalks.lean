import ComponentAtlas.Fragments

/-!
# Walks without links

A path whose steps are names of entries leads to what stands at its location, unless that is a link.
On the way to a location there are directories only, so a walk along it never leaves it. A package
whose directory holds a single data file has what the file holds as its only fragment.
-/

namespace ComponentAtlas

/-- A path whose first character is not the separator does not start at the root. -/
theorem startsWith_slash_eq_false {path : String} (h : path.toList.head? ≠ some '/') :
    path.startsWith slash = false := by
  rw [String.startsWith_string_eq_false_iff]
  rintro ⟨rest, hrest⟩
  exact h (hrest ▸ rfl)

/-- A separator stands between a path that does not end with one and a relative path. -/
theorem joinPath_eq {base name : String} (hbase : base ≠ "")
    (hlast : base.toList.getLast? ≠ some '/') (hname : name.toList.head? ≠ some '/') :
    joinPath base name = base ++ slash ++ name := by
  have hempty : base.isEmpty = false := by
    rwa [← Bool.not_eq_true, String.isEmpty_iff]
  have hends : base.endsWith slash = false := by
    rw [String.endsWith_eq_endsWith_toSlice, String.Slice.endsWith_string_eq_false_iff,
      String.copy_toSlice]
    rintro ⟨rest, hrest⟩
    rw [← hrest] at hlast
    exact hlast List.getLast?_concat
  rw [joinPath, startsWith_slash_eq_false hname, hempty, hends]
  rfl

/-- Whether a step of a path leads down: it neither stays where it is nor goes up. -/
def LeadsDown (step : String) : Prop :=
  step ≠ "" ∧ step ≠ "." ∧ step ≠ ".."

instance : DecidablePred LeadsDown := fun _ => inferInstanceAs (Decidable (_ ∧ _))

/-- Whether an entry is anything but a link. -/
def FileEntry.IsNoLink (entry : FileEntry) : Prop :=
  ∀ target, entry ≠ .link target

namespace FileSystem

/-- What stands below a directory stands in it or below a directory in it. -/
theorem entryBelow?_cons_eq_some {entries : Directory} {step : String} {rest : Location}
    {entry : FileEntry} (h : entryBelow? entries (step :: rest) = some entry) :
    (rest = [] ∧ entries.find? step = some entry) ∨
      ∃ inner, entries.find? step = some (.directory inner) ∧
        entryBelow? inner rest = some entry := by
  cases rest with
  | nil => exact .inl ⟨rfl, h⟩
  | cons next rest =>
    rw [entryBelow?] at h
    · split at h
      · rename_i inner hfind
        exact .inr ⟨inner, hfind, h⟩
      · cases h
    · exact List.cons_ne_nil next rest

/-- What stands below a directory that stands in another also stands below the other. -/
theorem entryBelow?_cons_of_directory {entries inner : Directory} {step : String}
    (hfind : entries.find? step = some (.directory inner)) (rest : Location) :
    entryBelow? entries (step :: rest) = entryBelow? inner rest := by
  cases rest with
  | nil => exact hfind
  | cons next rest =>
    rw [entryBelow?, hfind]
    exact List.cons_ne_nil next rest

/-- The entries of a directory stand below its location. -/
theorem entryBelow?_append {root entries : Directory} {location : Location}
    (h : entryBelow? root location = some (.directory entries)) (step : String) :
    entryBelow? root (location ++ [step]) = entries.find? step := by
  induction location generalizing root with
  | nil =>
    cases h
    rfl
  | cons name rest ih =>
    rw [List.cons_append]
    rcases entryBelow?_cons_eq_some h with ⟨rfl, hfind⟩ | ⟨inner, hfind, hinner⟩
    · rw [entryBelow?_cons_of_directory hfind, ih rfl]
    · rw [entryBelow?_cons_of_directory hfind, ih hinner]

variable {files : FileSystem} {location : Location} {entries : Directory} {entry : FileEntry}

/-- A walk without steps ends where it starts. -/
theorem walk_nil (hlocation : files.entryAt? location = some entry) (links : Nat) :
    files.walk links location [] = .ok (location, entry) := by
  rw [walk.eq_def, hlocation]

/-- A step to an entry that is no link leads to the location of the entry. -/
theorem walk_cons (hlocation : files.entryAt? location = some (.directory entries)) {step : String}
    (hstep : LeadsDown step) (hfind : entries.find? step = some entry) (hentry : entry.IsNoLink)
    (links : Nat) (rest : List String) :
    files.walk links location (step :: rest) = files.walk links (location ++ [step]) rest := by
  obtain ⟨hempty, hhere, hup⟩ := hstep
  rw [walk.eq_def, hlocation]
  simp only [hempty, hhere, hup, or_self, if_false, hfind]
  cases entry with
  | file _ | directory _ => rfl
  | link target => exact absurd rfl (hentry target)

/-- A walk along the names of entries leads to what stands there, if it is no link. -/
theorem walk_of_entryBelow? {steps : List String}
    (hlocation : files.entryAt? location = some (.directory entries))
    (hsteps : ∀ step ∈ steps, LeadsDown step) (hbelow : entryBelow? entries steps = some entry)
    (hentry : entry.IsNoLink) (links : Nat) :
    files.walk links location steps = .ok (location ++ steps, entry) := by
  induction steps generalizing location entries with
  | nil =>
    cases hbelow
    rw [walk_nil hlocation, List.append_nil]
  | cons step rest ih =>
    obtain ⟨hstep, hrest⟩ := List.forall_mem_cons.mp hsteps
    rcases entryBelow?_cons_eq_some hbelow with ⟨rfl, hfind⟩ | ⟨inner, hfind, hinner⟩
    · have hfound : files.entryAt? (location ++ [step]) = some entry :=
        (entryBelow?_append hlocation step).trans hfind
      rw [walk_cons hlocation hstep hfind hentry, walk_nil hfound]
    · have hfound : files.entryAt? (location ++ [step]) = some (.directory inner) :=
        (entryBelow?_append hlocation step).trans hfind
      rw [walk_cons hlocation hstep hfind (fun _ => FileEntry.noConfusion), ih hfound hrest hinner,
        List.append_assoc, List.singleton_append]

/-- A relative path of names leads to what stands at its location below the working directory. -/
theorem locate_of_entryBelow? {path : String} (hrelative : path.toList.head? ≠ some '/')
    (hworking : files.entryAt? files.workingDirectory = some (.directory entries))
    (hsteps : ∀ step ∈ pathSteps path, LeadsDown step)
    (hbelow : entryBelow? entries (pathSteps path) = some entry) (hentry : entry.IsNoLink) :
    files.locate path = .ok (files.workingDirectory ++ pathSteps path, entry) := by
  have hempty : path.isEmpty = false := by
    rw [← Bool.not_eq_true, String.isEmpty_iff]
    rintro rfl
    exact (hsteps "" (by decide)).1 rfl
  rw [locate, hempty, start, startsWith_slash_eq_false hrelative]
  exact walk_of_entryBelow? hworking hsteps hbelow hentry maxLinks

/-- The only file in a directory is its only fragment. -/
theorem fragmentFiles_single (files : FileSystem) {name : String} (hname : isFragmentName name)
    (path : String) (location : Location) (content : ByteArray) :
    files.fragmentFiles path location [(name, .file content)] =
      .ok [⟨joinPath path name, [name]⟩] := by
  obtain ⟨fuel, hfuel⟩ : ∃ fuel, files.walkDepth = fuel + 1 := ⟨_, rfl⟩
  have hbelow : files.fragmentsBelow files.walkDepth [] ⟨location, path⟩ []
      [(name, .file content)] = .ok [⟨joinPath path name, [name]⟩] := by
    have hfile : files.fragmentsAt (files.fragmentsBelow fuel) [⟨location, path⟩]
        ⟨location, path⟩ [] name (.file content) = .ok [⟨joinPath path name, [name]⟩] :=
      congrArg Except.ok (if_pos hname)
    rw [hfuel, fragmentsBelow_succ, List.mapM_cons, List.mapM_nil, hfile]
    rfl
  rw [fragmentsBelow] at hbelow
  rw [fragmentFiles, searchFiles, hbelow]
  exact congrArg Except.ok (List.mergeSort_singleton _)

/-- A file that holds a text without a byte order mark is decoded in the format of its name. -/
theorem readData_of_read {path text : String} (hread : files.read path = .ok text.toUTF8)
    (hmark : text.toList.head? ≠ some '\ufeff') {format : DataFormat}
    (hformat : DataFormat.ofPath? path = some format) {α : Type}
    {decode : Dialect → Document → Option α} {value : α}
    (hvalue : format.decode? decode text = some value) :
    files.readData decode path = .ok value := by
  have hkept : text.toList.dropWhile (· = '\ufeff') = text.toList := by
    cases hchars : text.toList with
    | nil => rfl
    | cons c rest =>
      rw [hchars] at hmark
      exact List.dropWhile_cons_of_neg (by simpa using hmark)
  have htext : files.readText path = .ok text := by
    have hdecoded : String.fromUTF8? text.toUTF8 = some text := by
      simp only [String.fromUTF8?]
      exact dif_pos text.isValidUTF8
    rw [readText, hread]
    simp only [hdecoded, withoutByteOrderMark, hkept, String.ofList_toList]
  rw [readData, hformat, htext]
  simp only [bind, Except.bind, hvalue]

end FileSystem

/-- A package with a single file has one fragment. -/
theorem DirectoryFragments.ofPackage_single {fragments : DirectoryFragments} {package : String}
    (hpackage : isPackageName package) {directory : String}
    (hdirectory : joinPath fragments.root package = directory) {location : Location} {name : String}
    {content : ByteArray}
    (hlist : fragments.files.list directory = .ok (location, [(name, .file content)]))
    (hname : isFragmentName name) {path : String} (hpath : joinPath directory name = path)
    {tree : Tree} (hdata : fragments.files.readData Document.tree? path = .ok tree) :
    fragments.ofPackage package = .ok [tree] := by
  rw [ofPackage_of_isPackageName hpackage, directoryOf, hdirectory]
  simp only [hlist, FileSystem.fragmentFiles_single _ hname, hpath, bind, Except.bind,
    List.mapM_cons, List.mapM_nil, hdata]
  rfl

end ComponentAtlas
