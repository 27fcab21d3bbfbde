import ComponentAtlas.Inspector
import ComponentAtlas.Proofs.Relisting

/-!
# Precedence of fragments

The fragments of a package are the data files below its directory in ascending order of their paths,
compared component by component. No two files have the same path, so there is one such order, and it
does not matter in which order the files are found: fragments, faults and merged trees are the same
for every order in which directories list their entries.
-/

namespace ComponentAtlas

/-- Names are ordered as lists of texts are. -/
theorem namesOrdered_iff {left right : List String} : namesOrdered left right ↔ ¬right < left := by
  induction left generalizing right with
  | nil => exact iff_of_true rfl (List.not_lt_nil right)
  | cons a left ih =>
    cases right with
    | nil => exact iff_of_false Bool.false_ne_true fun h => h (List.nil_lt_cons a left)
    | cons b right =>
      rw [namesOrdered, List.cons_lt_cons_iff]
      split
      · rename_i heq
        subst heq
        rw [ih]
        exact ⟨fun h => not_or.mpr ⟨String.lt_irrefl a, fun hrest => h hrest.2⟩,
          fun h hlt => h (.inr ⟨rfl, hlt⟩)⟩
      · rename_i hne
        rw [decide_eq_true_iff, ← String.not_lt, not_or]
        exact ⟨fun h => ⟨h, fun heq => hne heq.1.symm⟩, And.left⟩

/-- Files in order of their names. -/
def sortedFragments (found : List FragmentFile) : List FragmentFile :=
  found.mergeSort fun left right => namesOrdered left.names right.names

/-- Whether files stand in ascending order of their names, each once. -/
def Ascending (found : List FragmentFile) : Prop :=
  found.Pairwise fun left right => left.names < right.names

/-- Sorting files leaves out none and adds none. -/
theorem mem_sortedFragments {found : List FragmentFile} {file : FragmentFile} :
    file ∈ sortedFragments found ↔ file ∈ found :=
  (List.mergeSort_perm found _).mem_iff

/-- Files of different names stand in ascending order once they are sorted. -/
theorem ascending_sortedFragments {found : List FragmentFile}
    (hnodup : (found.map FragmentFile.names).Nodup) : Ascending (sortedFragments found) := by
  have hsorted : (sortedFragments found).Pairwise fun left right => ¬right.names < left.names := by
    refine (List.pairwise_mergeSort ?_ ?_ found).imp namesOrdered_iff.mp
    · intro a b c hab hbc
      rw [namesOrdered_iff, List.not_lt] at hab hbc ⊢
      exact List.le_trans hab hbc
    · intro a b
      rw [Bool.or_eq_true, namesOrdered_iff, namesOrdered_iff, List.not_lt, List.not_lt]
      exact List.le_total a.names b.names
  have hdistinct : (sortedFragments found).Pairwise fun left right => left.names ≠ right.names :=
    List.pairwise_map.mp (((List.mergeSort_perm found _).map _).nodup_iff.mpr hnodup)
  refine (hsorted.and hdistinct).imp fun {left right} h => ?_
  refine Classical.byContradiction fun hnot => h.2 ?_
  exact List.le_antisymm (List.not_lt.mp h.1) (List.not_lt.mp hnot)

/-- There is one ascending order of files. -/
theorem Ascending.eq_of_mem_iff {left right : List FragmentFile} (hleft : Ascending left)
    (hright : Ascending right) (h : ∀ file, file ∈ left ↔ file ∈ right) : left = right := by
  have hnodup : ∀ {found}, Ascending found → found.Nodup := by
    refine fun {found} hfound => hfound.imp fun {a b} hlt => ?_
    rintro rfl
    exact List.lt_irrefl a.names hlt
  have hperm : left.Perm right :=
    (List.perm_ext_iff_of_nodup (hnodup hleft) (hnodup hright)).mpr h
  exact hperm.eq_of_pairwise (fun a b _ _ hab hba => (List.lt_asymm hab hba).elim) hleft hright

namespace FileSystem

variable {files : FileSystem} {top location : Location} {entries : Directory}

/-- A directory that can be listed stands at the location that its path leads to. -/
theorem entryAt?_of_list {path : String} (h : files.list path = .ok (location, entries)) :
    files.entryAt? location = some (.directory entries) := by
  rw [list] at h
  split at h
  · rename_i hlocate
    cases h
    rw [locate] at hlocate
    split at hlocate
    · cases hlocate
    · exact entryAt?_of_walk hlocate
  · cases h
  · cases h

/-- Names that lead anywhere are names of entries. -/
theorem isEntryName_of_resolveBelow? {files : NamedFiles} {names : List String}
    {found : Location × FileEntry} (h : files.resolveBelow? top names = some found) :
    ∀ name ∈ names, IsEntryName name := by
  induction names generalizing top with
  | nil => exact fun _ hname => absurd hname List.not_mem_nil
  | cons name rest ih =>
    obtain ⟨step, hstep, hrest⟩ := Option.bind_eq_some_iff.mp h
    obtain ⟨entries, hentries, hname, -⟩ := resolveIn?_eq_some hstep
    exact List.forall_mem_cons.mpr ⟨files.isEntryName hentries hname, ih hrest⟩

/-- The path of a fragment ends with the extension of the name that leads to it last. -/
theorem extension?_of_isFragment {files : NamedFiles} {directory : String}
    (hdirectory : directory ≠ "") {names : List String} (h : files.IsFragment top names) :
    extension? (fragmentFile directory names).path ∈ [some "json", some "yaml", some "yml"] := by
  obtain ⟨⟨_, _, hfound⟩, last, hlast, hextension⟩ := h
  have hnames := isEntryName_of_resolveBelow? hfound
  obtain ⟨before, rfl⟩ := List.getLast?_eq_some_iff.mp hlast
  obtain ⟨hbefore, hname⟩ := List.forall_mem_append.mp hnames
  rw [fragmentFile, List.foldl_concat, (List.forall_mem_singleton.mp hname).extension?_joinPath
    (foldl_joinPath_ne_empty hdirectory hbefore)]
  exact hextension

/-- Whether a list is that of the files with the extension of a fragment below a directory, in
ascending order. -/
structure OrdersFragments (files : FileSystem) (top : Location) (directory : String)
    (found : List FragmentFile) : Prop where
  ascending : Ascending found
  mem_iff : ∀ file, file ∈ found ↔
    ∃ names, files.IsFragment top names ∧ file = fragmentFile directory names

namespace OrdersFragments

variable {directory : String} {found : List FragmentFile}

/-- There is one such list, in whichever order directories list their entries. -/
theorem eq_of_relists {other : FileSystem} {found' : List FragmentFile}
    (h : files.OrdersFragments top directory found) (hother : files.Relists other)
    (h' : other.OrdersFragments top directory found') : found' = found := by
  refine h'.ascending.eq_of_mem_iff h.ascending fun file => ?_
  rw [h'.mem_iff, h.mem_iff]
  simp only [hother.isFragment_iff]

/-- The files stand in ascending order of their paths, component by component. -/
theorem pairwise_pathComponents_lt {files : NamedFiles}
    (h : files.OrdersFragments top directory found) (hdirectory : directory ≠ "") :
    found.Pairwise fun left right => pathComponents left.path < pathComponents right.path := by
  have hcomponents : ∀ file ∈ found,
      pathComponents file.path = pathComponents directory ++ file.names := by
    intro file hfile
    obtain ⟨names, ⟨⟨_, _, hnames⟩, _⟩, rfl⟩ := (h.mem_iff file).mp hfile
    exact pathComponents_foldl_joinPath hdirectory (isEntryName_of_resolveBelow? hnames)
  refine h.ascending.imp_of_mem fun {left right} hleft hright hlt => ?_
  rw [hcomponents left hleft, hcomponents right hright]
  exact List.append_left_lt hlt

/-- The path of every file ends in an extension of a fragment. -/
theorem extension?_mem {files : NamedFiles} (h : files.OrdersFragments top directory found)
    (hdirectory : directory ≠ "") : ∀ file ∈ found,
      extension? file.path ∈ [some "json", some "yaml", some "yml"] := by
  intro file hfile
  obtain ⟨names, hfragment, rfl⟩ := (h.mem_iff file).mp hfile
  exact extension?_of_isFragment hdirectory hfragment

end OrdersFragments

/-- Where everything can be listed, the fragment files are the files with the extension of a fragment,
in ascending order. -/
theorem exists_fragmentFiles {files : NamedFiles} (hlistable : files.Listable location)
    (hentries : files.entryAt? location = some (.directory entries)) (directory : String) :
    ∃ found, files.fragmentFiles directory location entries = .ok found ∧
      files.OrdersFragments location directory found := by
  have hhere := resolveBelow?_nil hentries
  have hwalks : files.WalksAt location directory [] ⟨location, directory⟩ [] entries :=
    ⟨hhere, rfl, List.forall_mem_singleton.mpr ⟨[], _, List.prefix_rfl, hhere⟩⟩
  obtain ⟨found, hfound, hlists⟩ :=
    exists_fragmentsBelow hlistable hwalks (Nat.zero_add files.walkDepth).ge
  refine ⟨sortedFragments found, bind_eq_ok.mpr ⟨found, hfound, rfl⟩, ?_⟩
  exact ⟨ascending_sortedFragments hlists.nodup, fun file =>
    mem_sortedFragments.trans (hlists.mem_iff file)⟩

/-- Whether a list of names is one of what stands below a directory, links followed, each once. -/
structure Delivers (files : FileSystem) (top : Location) (delivered : List (List String)) : Prop where
  nodup : delivered.Nodup
  mem_iff : ∀ names, names ≠ [] → (names ∈ delivered ↔ (files.resolveBelow? top names).isSome)

/-- The fragments among what stands below a directory, in order. -/
def fragmentsAmong (files : FileSystem) (top : Location) (directory : String)
    (delivered : List (List String)) : List FragmentFile :=
  sortedFragments ((delivered.filter (files.IsFragment top)).map (fragmentFile directory))

/-- Whatever order things are delivered in, the fragments among them are the same. -/
theorem ordersFragments_fragmentsAmong {delivered : List (List String)}
    (h : files.Delivers top delivered) (directory : String) :
    files.OrdersFragments top directory (files.fragmentsAmong top directory delivered) where
  ascending := by
    refine ascending_sortedFragments ?_
    have hnames : ((delivered.filter (files.IsFragment top)).map (fragmentFile directory)).map
        FragmentFile.names = delivered.filter (files.IsFragment top) := by
      rw [List.map_map]
      exact List.map_id _
    rw [hnames]
    exact h.nodup.filter _
  mem_iff file := by
    rw [fragmentsAmong, mem_sortedFragments, List.mem_map]
    constructor
    · rintro ⟨names, hnames, rfl⟩
      exact ⟨names, of_decide_eq_true (List.mem_filter.mp hnames).2, rfl⟩
    · rintro ⟨names, hfragment, rfl⟩
      refine ⟨names, List.mem_filter.mpr ⟨?_, decide_eq_true hfragment⟩, rfl⟩
      obtain ⟨⟨location, content, hfound⟩, last, hlast, -⟩ := hfragment
      have hne : names ≠ [] := by
        rintro rfl
        cases hlast
      rw [h.mem_iff names hne, hfound]
      rfl

/-- Whether a file holds a tree, in the format that the extension of its path stands for. -/
def HoldsTree (files : FileSystem) (path : String) (tree : Tree) : Prop :=
  ∃ text, files.readText path = .ok text ∧
    (extension? path = some "json" ∧ DataFormat.json.decode? Document.tree? text = some tree ∨
      extension? path ∈ [some "yaml", some "yml"] ∧
        DataFormat.yaml.decode? Document.tree? text = some tree)

/-- Data is read from a file when its text can be read and decoded in its format. -/
theorem readData_eq_ok {α : Type} {decode : Dialect → Document → Option α} {path : String}
    {format : DataFormat} (hformat : DataFormat.ofPath? path = some format) {value : α} :
    files.readData decode path = .ok value ↔
      ∃ text, files.readText path = .ok text ∧ format.decode? decode text = some value := by
  rw [readData, hformat]
  simp only [bind_eq_ok]
  refine exists_congr fun text => and_congr_right fun _ => ?_
  cases format.decode? decode text <;> simp

/-- What is read from a file with the extension of a fragment is the tree that it holds. -/
theorem readData_eq_ok_iff_holdsTree {path : String} {tree : Tree}
    (h : extension? path ∈ [some "json", some "yaml", some "yml"]) :
    files.readData Document.tree? path = .ok tree ↔ files.HoldsTree path tree := by
  rw [HoldsTree]
  rcases List.mem_cons.mp h with hjson | hyaml
  · rw [readData_eq_ok (DataFormat.ofPath?_eq_json.mpr hjson), hjson]
    simp
  · have hnot : extension? path ≠ some "json" := by
      intro hjson
      rw [hjson] at hyaml
      simp at hyaml
    have hformat : DataFormat.ofPath? path = some .yaml :=
      DataFormat.ofPath?_eq_yaml.mpr (by simpa using hyaml)
    rw [readData_eq_ok hformat]
    simp only [hnot, hyaml, false_and, true_and, false_or]

end FileSystem

namespace DirectoryFragments

variable {fragments : DirectoryFragments} {package : String} {location : Location}
  {entries : Directory}

/-- The directory of a package has a path. -/
theorem directoryOf_ne_empty (hpackage : isPackageName package) :
    fragments.directoryOf package ≠ "" :=
  (isPackageName_iff.mp hpackage).1.joinPath_ne_empty

end DirectoryFragments

/-- Fragments in a file system in which every directory holds different names that can stand in it. -/
structure NamedFragments extends DirectoryFragments where
  wellNamed : files.WellNamed

instance : Coe NamedFragments DirectoryFragments := ⟨NamedFragments.toDirectoryFragments⟩

/-- The file system that the fragments are in. -/
abbrev NamedFragments.namedFiles (fragments : NamedFragments) : NamedFiles :=
  ⟨fragments.files, fragments.wellNamed⟩

namespace DirectoryFragments

variable {package : String} {location : Location} {entries : Directory}

/-- The fragments of a package are read from its fragment files one after the other. -/
theorem exists_ofPackage (fragments : NamedFragments)
    (hpackage : isPackageName package)
    (hlist : fragments.files.list (fragments.directoryOf package) = .ok (location, entries))
    (hlistable : fragments.files.Listable location) :
    ∃ found, fragments.namedFiles.OrdersFragments location (fragments.directoryOf package) found ∧
      fragments.ofPackage package =
        found.mapM fun file => fragments.files.readData Document.tree? file.path := by
  obtain ⟨found, hfound, horders⟩ := @FileSystem.exists_fragmentFiles location entries
    fragments.namedFiles hlistable (FileSystem.entryAt?_of_list hlist) (fragments.directoryOf package)
  refine ⟨found, horders, ?_⟩
  rw [ofPackage_of_isPackageName hpackage, hlist]
  simp only [hfound]
  rfl

/-- Where everything below the directory of a package can be listed, its fragments are what its data
files hold, in ascending order of their paths, whatever order they are found in. -/
theorem ofPackage_ordered_by_path {fragments : NamedFragments}
    (hpackage : isPackageName package)
    (hlist : fragments.files.list (fragments.directoryOf package) = .ok (location, entries))
    (hlistable : fragments.files.Listable location) :
    ∃ found : List FragmentFile,
      found.Pairwise (fun left right => pathComponents left.path < pathComponents right.path) ∧
      (∀ file, file ∈ found ↔ ∃ names, fragments.files.IsFragment location names ∧
        file = FileSystem.fragmentFile (fragments.directoryOf package) names) ∧
      (∀ delivered, fragments.files.Delivers location delivered →
        fragments.files.fragmentsAmong location (fragments.directoryOf package) delivered = found) ∧
      (∀ trees, fragments.ofPackage package = .ok trees ↔
        List.Forall₂ (fun file tree => fragments.files.HoldsTree file.path tree) found trees) ∧
      (∀ fault, fragments.ofPackage package = .error fault ↔
        FailsFirst (fun file => fragments.files.readData Document.tree? file.path) found fault) ∧
      ∀ other, fragments.files.Relists other →
        ofPackage ⟨other, fragments.root⟩ package = fragments.ofPackage package ∧
        ∀ policy, (FragmentSource.directory ⟨other, fragments.root⟩).mergedTree policy package =
          (FragmentSource.directory fragments).mergedTree policy package := by
  have hdirectory : fragments.directoryOf package ≠ "" := directoryOf_ne_empty hpackage
  obtain ⟨found, horders, houtcome⟩ := exists_ofPackage fragments hpackage hlist hlistable
  have hpaths := horders.pairwise_pathComponents_lt hdirectory
  refine ⟨found, hpaths, horders.mem_iff, ?_, ?_, ?_, ?_⟩
  · intro delivered hdelivers
    have hamong := FileSystem.ordersFragments_fragmentsAmong hdelivers (fragments.directoryOf package)
    refine hamong.ascending.eq_of_mem_iff horders.ascending fun file => ?_
    rw [hamong.mem_iff, horders.mem_iff]
  · intro trees
    rw [houtcome, mapM_eq_ok]
    refine forall₂_congr_of_mem fun file hfile tree => ?_
    have hextension := horders.extension?_mem hdirectory file hfile
    exact FileSystem.readData_eq_ok_iff_holdsTree hextension
  · intro fault
    rw [houtcome, mapM_eq_error]
  · intro other hother
    -- The other order finds the same files, and of these there is only one ascending list.
    obtain ⟨others, hothers, -⟩ := hother.exists_list hlist
    obtain ⟨found', horders', houtcome'⟩ :=
      exists_ofPackage ⟨⟨other, fragments.root⟩, hother.wellNamed fragments.wellNamed⟩
        hpackage hothers (hother.listable hlistable)
    have hsame : ofPackage ⟨other, fragments.root⟩ package = fragments.ofPackage package := by
      rw [houtcome', houtcome, horders.eq_of_relists hother horders']
      simp only [hother.readData_eq]
    refine ⟨hsame, fun policy => ?_⟩
    rw [FragmentSource.mergedTree, FragmentSource.mergedTree, FragmentSource.ofPackage,
      FragmentSource.ofPackage, hsame]

section Site

open FileSystem

/-- A directory with a single fragment. -/
def extraEntries : Directory := [("30-extra.yml", .file "paths: \x7b\x7d".toUTF8)]

/-- The directory of a package with two fragments, a directory with another, and a link to it. -/
def siteEntries : Directory := [
  ("nested", .directory extraEntries),
  ("20-site.yaml", .file "prototypes: \x7b\x7d".toUTF8),
  ("again", .link "nested"),
  ("10-base.json", .file "\x7b\x7d".toUTF8)]

/-- A package whose directory lists given entries. -/
def siteFiles (entries : Directory) : FileSystem :=
  { root := [("frag", .directory [("Site", .directory entries)])] }

/-- The package in a file system whose directories hold different names. -/
def namedSite : NamedFragments :=
  ⟨⟨siteFiles siteEntries, "frag"⟩, wellNamed_of_directories (by decide)⟩

/-- The directory of the package stands below that of the fragments. -/
theorem entryAt?_site :
    (siteFiles siteEntries).entryAt? ["frag", "Site"] = some (.directory siteEntries) :=
  rfl

/-- The other directory stands in that of the package. -/
theorem entryAt?_nested :
    (siteFiles siteEntries).entryAt? ["frag", "Site", "nested"] = some (.directory extraEntries) :=
  rfl

/-- The link leads to the directory that stands next to it. -/
theorem resolveIn?_again : (siteFiles siteEntries).resolveIn? ["frag", "Site"] "again" =
    some (["frag", "Site", "nested"], .directory extraEntries) := by
  have hnested : (siteFiles siteEntries).walk 39 ["frag", "Site"] ["nested"] =
      .ok (["frag", "Site", "nested"], .directory extraEntries) :=
    walk_of_entryBelow? entryAt?_site (by decide) rfl (fun _ => FileEntry.noConfusion) 39
  rw [resolveIn?_eq entryAt?_site (by decide), maxLinks, walk_link entryAt?_site (by decide) rfl,
    start, startsWith_slash_eq_false (by decide), if_neg Bool.false_ne_true]
  exact congrArg Except.toOption hnested

/-- Every name in the directory of the package leads somewhere, to a directory only where it is the
one in it. -/
theorem exists_resolveIn?_site : ∀ name ∈ Keyed.keys siteEntries, ∃ next entry,
    (siteFiles siteEntries).resolveIn? ["frag", "Site"] name = some (next, entry) ∧
      ∀ inner, entry = .directory inner → next = ["frag", "Site", "nested"] := by
  have hplain : ∀ {name entry}, siteEntries.find? name = some entry → entry.IsNoLink →
      (siteFiles siteEntries).resolveIn? ["frag", "Site"] name =
        some (["frag", "Site", name], entry) := fun hfind =>
    resolveIn?_of_isNoLink namedSite.namedFiles entryAt?_site hfind
  simp only [siteEntries, Keyed.keys_cons, Keyed.keys_nil, List.forall_mem_cons]
  refine ⟨?nested, ?site, ⟨_, _, resolveIn?_again, fun _ _ => rfl⟩, ?base, fun _ h => nomatch h⟩
  case nested => exact ⟨_, _, hplain rfl fun _ => FileEntry.noConfusion, fun _ _ => rfl⟩
  case site => exact ⟨_, _, hplain rfl fun _ => FileEntry.noConfusion, fun _ h => nomatch h⟩
  case base => exact ⟨_, _, hplain rfl fun _ => FileEntry.noConfusion, fun _ h => nomatch h⟩

/-- The name in the other directory leads to its fragment. -/
theorem resolveIn?_extra :
    (siteFiles siteEntries).resolveIn? ["frag", "Site", "nested"] "30-extra.yml" =
      some (["frag", "Site", "nested", "30-extra.yml"], .file "paths: \x7b\x7d".toUTF8) :=
  resolveIn?_of_isNoLink namedSite.namedFiles entryAt?_nested rfl fun _ => FileEntry.noConfusion

/-- Names lead to the directory of the package and to the one in it only. -/
theorem siteFiles_reaches : ∀ names {around entries},
    (siteFiles siteEntries).resolveBelow? ["frag", "Site"] names = some (around, .directory entries) →
      (names = [] ∧ around = ["frag", "Site"] ∧ entries = siteEntries) ∨
        around = ["frag", "Site", "nested"] ∧ entries = extraEntries := by
  refine resolveBelow?_induction (fun entries h => .inl ⟨rfl, rfl, ?_⟩) ?_
  · cases h
    rfl
  · rintro names around entries hbefore name next inner hname
    obtain ⟨listed, hlisted, hmem, -⟩ := resolveIn?_eq_some hname
    rcases hbefore with ⟨rfl, rfl, rfl⟩ | ⟨rfl, rfl⟩
    · cases hlisted
      obtain ⟨found, entry, hfound, hnext⟩ := exists_resolveIn?_site name hmem
      cases hname.symm.trans hfound
      obtain rfl := hnext inner rfl
      cases entryAt?_of_resolveIn? hname
      exact .inr ⟨rfl, rfl⟩
    · cases hlisted
      obtain rfl := List.mem_singleton.mp hmem
      cases hname.symm.trans resolveIn?_extra

/-- All that stands in the directory of the package can be listed. -/
theorem siteFiles_listable : (siteFiles siteEntries).Listable ["frag", "Site"] where
  resolves names around entries h name hname := by
    rcases siteFiles_reaches names h with ⟨-, rfl, rfl⟩ | ⟨rfl, rfl⟩
    · obtain ⟨next, entry, hfound, -⟩ := exists_resolveIn?_site name hname
      rw [hfound]
      rfl
    · obtain rfl := List.mem_singleton.mp hname
      rw [resolveIn?_extra]
      rfl
  ends names around entries h name target next inner hlink hname before hbefore entry hfound := by
    rcases siteFiles_reaches names h with ⟨rfl, rfl, rfl⟩ | ⟨rfl, rfl⟩
    · obtain ⟨_, _, hname', hnext⟩ :=
        exists_resolveIn?_site name (Keyed.mem_keys_of_find? hlink)
      cases hname.symm.trans hname'
      obtain rfl := hnext inner rfl
      obtain rfl := List.prefix_nil.mp hbefore
      cases hfound
    · obtain rfl := List.mem_singleton.mp (Keyed.mem_keys_of_find? hlink)
      cases hlink

/-- The package is the same when its directory lists its entries in the reverse order. -/
theorem siteFiles_relists : (siteFiles siteEntries).Relists (siteFiles siteEntries.reverse) := by
  have hsingle : ∀ {name : String} {entry other : FileEntry}, entry.Relists other →
      FileEntry.Relists (.directory [(name, entry)]) (.directory [(name, other)]) := fun h =>
    .directory (.refl _) (List.forall_mem_singleton.mpr (List.forall_mem_singleton.mpr fun _ => h))
  have hsite : ∀ entry ∈ siteEntries, entry.2.Relists entry.2 := by
    simp only [siteEntries, List.forall_mem_cons]
    exact ⟨hsingle (.file _), .file _, .link _, .file _, fun _ h => nomatch h⟩
  have hdistinct := namedSite.namedFiles.distinct entryAt?_site
  exact ⟨hsingle (hsingle (.of_perm hdistinct (List.reverse_perm siteEntries).symm hsite)), rfl⟩

/-- The package has the same fragments when its directory lists its entries in the reverse order. -/
theorem ofPackage_ordered_by_path_of_site :
    ofPackage ⟨siteFiles siteEntries.reverse, "frag"⟩ "Site" =
      ofPackage ⟨siteFiles siteEntries, "frag"⟩ "Site" := by
  have hdirectory : joinPath "frag" "Site" = "frag/Site" :=
    joinPath_eq (by decide) (by decide) (by decide)
  have hlocate : (siteFiles siteEntries).locate "frag/Site" =
      .ok (["frag", "Site"], .directory siteEntries) :=
    locate_of_entryBelow? (by decide) rfl (by decide) rfl fun _ => FileEntry.noConfusion
  have hlist : (siteFiles siteEntries).list (directoryOf ⟨siteFiles siteEntries, "frag"⟩ "Site") =
      .ok (["frag", "Site"], siteEntries) := by
    rw [directoryOf, hdirectory, list, hlocate]
  obtain ⟨found, -, -, -, -, -, hother⟩ :=
    @ofPackage_ordered_by_path _ _ _ namedSite (by decide) hlist siteFiles_listable
  exact (hother _ siteFiles_relists).1

end Site

end DirectoryFragments

end ComponentAtlas
