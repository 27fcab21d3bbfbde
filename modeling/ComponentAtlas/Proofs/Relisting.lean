import ComponentAtlas.Proofs.DirectoryWalks

/-!
# File systems that list the same in other orders

A file system may list the entries of its directories in any order. What a path or a name leads to
does not depend on the order, up to the order in which a directory that is found lists its entries, and
what is read from a file does not depend on it at all.
-/

namespace ComponentAtlas

/-- Whether two entries are the same, but for the order in which directories list their entries. -/
inductive FileEntry.Relists : FileEntry → FileEntry → Prop
  | file (content : ByteArray) : Relists (.file content) (.file content)
  | link (target : String) : Relists (.link target) (.link target)
  | directory {entries others : List (String × FileEntry)}
      (hkeys : (Keyed.keys entries).Perm (Keyed.keys others))
      (hentries : ∀ entry ∈ entries, ∀ other ∈ others, entry.1 = other.1 → Relists entry.2 other.2) :
      Relists (.directory entries) (.directory others)

/-- If one entry is another in a different order, the other is the one. -/
theorem FileEntry.Relists.symm {entry other : FileEntry} (h : entry.Relists other) :
    other.Relists entry := by
  induction h with
  | file content => exact .file content
  | link target => exact .link target
  | directory hkeys _ ih =>
    exact .directory hkeys.symm fun other hother entry hentry heq =>
      ih entry hentry other hother heq.symm

/-- A directory may list different names in any order. -/
theorem FileEntry.Relists.of_perm {entries others : Directory} (hdistinct : entries.Distinct)
    (hperm : entries.Perm others) (hsame : ∀ entry ∈ entries, entry.2.Relists entry.2) :
    FileEntry.Relists (.directory entries) (.directory others) := by
  refine .directory (hperm.map Prod.fst) ?_
  rintro ⟨name, entry⟩ hentry ⟨_, other⟩ hother rfl
  have hfind : some entry = some other := (Keyed.find?_of_mem hdistinct hentry).symm.trans
    (Keyed.find?_of_mem hdistinct (hperm.mem_iff.mpr hother))
  cases hfind
  exact hsame _ hentry

namespace FileEntry.Relists

variable {entries others : Directory} {name : String} {location : Location} {entry : FileEntry}
  (h : FileEntry.Relists (.directory entries) (.directory others))
include h

/-- A directory in a different order has the same names. -/
theorem mem_keys : name ∈ Keyed.keys entries ↔ name ∈ Keyed.keys others := by
  cases h with
  | directory hkeys _ => exact hkeys.mem_iff

/-- No name repeats in a directory in a different order. -/
theorem distinct (hdistinct : entries.Distinct) : others.Distinct := by
  cases h with
  | directory hkeys _ => exact hkeys.nodup hdistinct

/-- What stands under a name stands there in the other order as well. -/
theorem exists_find? (hfind : entries.find? name = some entry) :
    ∃ found, others.find? name = some found ∧ entry.Relists found := by
  cases h with
  | directory hkeys hentries =>
    have hname := hkeys.mem_iff.mp (Keyed.mem_keys_of_find? hfind)
    obtain ⟨found, hfound⟩ := Option.isSome_iff_exists.mp (Keyed.find?_isSome.mpr hname)
    exact ⟨found, hfound,
      hentries _ (Keyed.mem_of_find? hfind) _ (Keyed.mem_of_find? hfound) rfl⟩

/-- What stands below a directory stands there in the other order as well. -/
theorem exists_entryBelow? (hentry : FileSystem.entryBelow? entries location = some entry) :
    ∃ found, FileSystem.entryBelow? others location = some found ∧ entry.Relists found := by
  induction location generalizing entries others with
  | nil =>
    cases hentry
    exact ⟨_, rfl, h⟩
  | cons name rest ih =>
    rcases FileSystem.entryBelow?_cons_eq_some hentry with ⟨rfl, hfind⟩ | ⟨inner, hfind, hinner⟩
    · exact h.exists_find? hfind
    · obtain ⟨_, hfound, hsame⟩ := h.exists_find? hfind
      cases hsame with
      | @directory _ inner' hkeys hentries =>
        obtain ⟨found, hbelow, hentry⟩ := ih (.directory hkeys hentries) hinner
        exact ⟨found, (FileSystem.entryBelow?_cons_of_directory hfound rest).trans hbelow, hentry⟩

end FileEntry.Relists

namespace FileSystem

/-- Whether two file systems are the same, but for the order in which directories list their
entries. -/
structure Relists (files other : FileSystem) : Prop where
  root : FileEntry.Relists (.directory files.root) (.directory other.root)
  workingDirectory : files.workingDirectory = other.workingDirectory

/-- Whether two results of following a path are the same, but for the order in which a directory that
is found lists its entries. -/
inductive FindsSame : Except FileFault (Location × FileEntry) →
    Except FileFault (Location × FileEntry) → Prop
  | fault (fault : FileFault) : FindsSame (.error fault) (.error fault)
  | entry (location : Location) {entry found : FileEntry} (h : entry.Relists found) :
      FindsSame (.ok (location, entry)) (.ok (location, found))

variable {files other : FileSystem}

namespace Relists

/-- If one file system is another in a different order, the other is the one. -/
theorem symm (h : files.Relists other) : other.Relists files :=
  ⟨h.root.symm, h.workingDirectory.symm⟩

variable {location top : Location} {entry : FileEntry} {entries : Directory} {name : String}
  {names : List String}

/-- What stands at a location stands there in the other order as well. -/
theorem exists_entryAt? (h : files.Relists other) (hentry : files.entryAt? location = some entry) :
    ∃ found, other.entryAt? location = some found ∧ entry.Relists found :=
  h.root.exists_entryBelow? hentry

/-- Where nothing stands at a location, nothing stands there in the other order. -/
theorem entryAt?_eq_none (h : files.Relists other) (hnone : files.entryAt? location = none) :
    other.entryAt? location = none := by
  cases hother : other.entryAt? location with
  | none => rfl
  | some found =>
    obtain ⟨entry, hentry, -⟩ := h.symm.exists_entryAt? hother
    rw [hnone] at hentry
    cases hentry

/-- A directory at a location is there in the other order as well. -/
theorem exists_directory (h : files.Relists other)
    (hentries : files.entryAt? location = some (.directory entries)) :
    ∃ others, other.entryAt? location = some (.directory others) ∧
      FileEntry.Relists (.directory entries) (.directory others) := by
  obtain ⟨found, hfound, hsame⟩ := h.exists_entryAt? hentries
  cases hsame with
  | directory hkeys hrest => exact ⟨_, hfound, .directory hkeys hrest⟩

/-- Steps lead to the same, in whichever order directories list their entries. -/
theorem walk (h : files.Relists other) (links : Nat) (location : Location) (steps : List String) :
    FindsSame (files.walk links location steps) (other.walk links location steps) := by
  fun_induction files.walk links location steps with
  | case1 _ _ _ hnone =>
    rw [FileSystem.walk.eq_def, h.entryAt?_eq_none hnone]
    exact .fault _
  | case2 _ location _ hentry =>
    obtain ⟨found, hfound, hsame⟩ := h.exists_entryAt? hentry
    rw [walk_nil hfound]
    exact .entry location hsame
  | case3 _ _ _ _ _ hentries hstays ih =>
    obtain ⟨others, hothers, -⟩ := h.exists_directory hentries
    rw [FileSystem.walk.eq_def other, hothers]
    simp only [hstays, if_true]
    exact ih
  | case4 _ _ _ _ hentries hstays ih =>
    obtain ⟨others, hothers, -⟩ := h.exists_directory hentries
    rw [FileSystem.walk.eq_def other, hothers]
    simp only [hstays, if_true, if_false]
    exact ih
  | case5 _ _ _ _ _ hentries hstays hup hfind =>
    obtain ⟨others, hothers, hsame⟩ := h.exists_directory hentries
    have hnone : Keyed.find? others _ = none := Keyed.find?_eq_none.mpr fun hmem =>
      Keyed.find?_eq_none.mp hfind (hsame.mem_keys.mpr hmem)
    rw [FileSystem.walk.eq_def other, hothers]
    simp only [hstays, hup, hnone, if_false]
    exact .fault _
  | case6 _ _ _ _ hentries hstays hup _ hfind =>
    obtain ⟨others, hothers, hsame⟩ := h.exists_directory hentries
    obtain ⟨_, hfound, ⟨⟩⟩ := hsame.exists_find? hfind
    rw [FileSystem.walk.eq_def other, hothers]
    simp only [hstays, hup, hfound, if_false]
    exact .fault _
  | case7 _ _ _ _ hentries hstays hup _ hfind _ ih =>
    obtain ⟨others, hothers, hsame⟩ := h.exists_directory hentries
    obtain ⟨_, hfound, ⟨⟩⟩ := hsame.exists_find? hfind
    rw [FileSystem.walk.eq_def other, hothers]
    simp only [hstays, hup, hfound, if_false]
    exact ih
  | case8 _ _ _ _ _ hentries hstays hup _ hlink hfind ih =>
    obtain ⟨others, hothers, hsame⟩ := h.exists_directory hentries
    obtain ⟨_, hfound, hentry⟩ := hsame.exists_find? hfind
    rw [FileSystem.walk.eq_def other, hothers]
    simp only [hstays, hup, hfound, if_false]
    cases hentry with
    | file _ | directory _ _ => exact ih
    | link target => exact (hlink target rfl).elim
  | case9 _ _ _ _ _ hplain hentry =>
    obtain ⟨found, hfound, hsame⟩ := h.exists_entryAt? hentry
    rw [FileSystem.walk.eq_def other, hfound]
    cases hsame with
    | file _ | link _ => exact .fault _
    | directory _ _ => exact (hplain _ rfl).elim

/-- A path leads to the same, in whichever order directories list their entries. -/
theorem locate (h : files.Relists other) (path : String) :
    FindsSame (files.locate path) (other.locate path) := by
  rw [FileSystem.locate, FileSystem.locate, h.workingDirectory]
  split
  · exact .fault _
  · exact h.walk _ _ _

/-- What is read from a file does not depend on the order in which directories list their entries. -/
theorem read_eq (h : files.Relists other) (path : String) : other.read path = files.read path := by
  have hsame := h.locate path
  rw [read, read]
  generalize files.locate path = found at hsame ⊢
  generalize other.locate path = found' at hsame ⊢
  cases hsame with
  | fault _ => rfl
  | entry _ hentry => cases hentry <;> rfl

/-- Data is read alike, in whatever order directories list their entries. -/
theorem readData_eq (h : files.Relists other) {α : Type} (decode : Dialect → Document → Option α)
    (path : String) : other.readData decode path = files.readData decode path := by
  rw [readData, readData, readText, readText, h.read_eq]

/-- A directory stands at the same location, and it lists the same. -/
theorem exists_list (h : files.Relists other) {path : String}
    (hlist : files.list path = .ok (location, entries)) :
    ∃ others, other.list path = .ok (location, others) ∧
      FileEntry.Relists (.directory entries) (.directory others) := by
  have hsame := h.locate path
  rw [list] at hlist ⊢
  generalize files.locate path = found at hsame hlist
  generalize other.locate path = found' at hsame ⊢
  cases hsame with
  | fault _ => cases hlist
  | entry place hentry =>
    cases hentry with
    | file _ | link _ => cases hlist
    | directory hkeys hentries =>
      cases hlist
      exact ⟨_, rfl, .directory hkeys hentries⟩

/-- A name leads to the same location in the other order. -/
theorem exists_resolveIn? (h : files.Relists other)
    (hname : files.resolveIn? top name = some (location, entry)) :
    ∃ found, other.resolveIn? top name = some (location, found) ∧ entry.Relists found := by
  obtain ⟨entries, hentries, hmem, hwalk⟩ := resolveIn?_eq_some hname
  obtain ⟨others, hothers, hsame⟩ := h.exists_directory hentries
  have hfinds := h.walk maxLinks top [name]
  rw [hwalk] at hfinds
  rw [resolveIn?_eq hothers (hsame.mem_keys.mp hmem)]
  generalize other.walk maxLinks top [name] = found at hfinds ⊢
  cases hfinds with
  | entry _ hentry => exact ⟨_, rfl, hentry⟩

/-- Names lead to the same, in whichever order directories list their entries. -/
theorem exists_resolveBelow? (h : files.Relists other)
    (hnames : files.resolveBelow? top names = some (location, entry)) :
    ∃ found, other.resolveBelow? top names = some (location, found) ∧ entry.Relists found := by
  induction names generalizing top with
  | nil =>
    obtain ⟨_, hentry, heq⟩ := Option.map_eq_some_iff.mp hnames
    cases heq
    obtain ⟨found, hfound, hsame⟩ := h.exists_entryAt? hentry
    exact ⟨found, resolveBelow?_nil hfound, hsame⟩
  | cons name rest ih =>
    obtain ⟨⟨next, step⟩, hstep, hrest⟩ := Option.bind_eq_some_iff.mp hnames
    obtain ⟨_, hname, -⟩ := h.exists_resolveIn? hstep
    obtain ⟨found, hfound, hsame⟩ := ih hrest
    refine ⟨found, ?_, hsame⟩
    rw [resolveBelow?, hname]
    exact hfound

/-- Names that lead to a directory lead to it in the other order as well. -/
theorem exists_resolveBelow?_directory (h : files.Relists other)
    (hnames : files.resolveBelow? top names = some (location, .directory entries)) :
    ∃ others, other.resolveBelow? top names = some (location, .directory others) ∧
      FileEntry.Relists (.directory entries) (.directory others) := by
  obtain ⟨found, hfound, hsame⟩ := h.exists_resolveBelow? hnames
  cases hsame with
  | directory hkeys hrest => exact ⟨_, hfound, .directory hkeys hrest⟩

/-- A fragment is one in the other order as well. -/
theorem isFragment (h : files.Relists other) (hfragment : files.IsFragment top names) :
    other.IsFragment top names := by
  obtain ⟨⟨location, content, hfound⟩, hlast⟩ := hfragment
  obtain ⟨_, hother, ⟨⟩⟩ := h.exists_resolveBelow? hfound
  exact ⟨⟨location, content, hother⟩, hlast⟩

/-- There are the same fragments in both orders. -/
theorem isFragment_iff (h : files.Relists other) :
    other.IsFragment top names ↔ files.IsFragment top names :=
  ⟨h.symm.isFragment, h.isFragment⟩

/-- A file system that lists the names of another in other orders is well named if that one is. -/
theorem wellNamed (h : files.Relists other) (hnamed : files.WellNamed) : other.WellNamed := by
  intro location others hothers
  obtain ⟨entries, hentries, hsame⟩ := h.symm.exists_directory hothers
  obtain ⟨hdistinct, hnames⟩ := hnamed location entries hentries
  exact ⟨hsame.symm.distinct hdistinct, fun name hname => hnames name (hsame.mem_keys.mp hname)⟩

/-- What can be listed can be listed in the other order as well. -/
theorem listable (h : files.Relists other) (hlistable : files.Listable top) : other.Listable top where
  resolves names around others hothers name hname := by
    obtain ⟨entries, hentries, hsame⟩ := h.symm.exists_resolveBelow?_directory hothers
    obtain ⟨⟨next, entry⟩, hentry⟩ := Option.isSome_iff_exists.mp <|
      hlistable.resolves names around entries hentries name (hsame.mem_keys.mp hname)
    obtain ⟨found, hfound, -⟩ := h.exists_resolveIn? hentry
    rw [hfound]
    rfl
  ends names around others hothers name target next inner hlink hinner before hbefore found
      hfound := by
    obtain ⟨entries, hentries, hsame⟩ := h.symm.exists_resolveBelow?_directory hothers
    obtain ⟨_, hfind, ⟨⟩⟩ := hsame.exists_find? hlink
    obtain ⟨_, hname, ⟨⟩⟩ := h.symm.exists_resolveIn? hinner
    obtain ⟨entry, hentry, -⟩ := h.symm.exists_resolveBelow? hfound
    exact hlistable.ends names around entries hentries name target next _ hfind hname before hbefore
      entry hentry

end Relists

end FileSystem

end ComponentAtlas
