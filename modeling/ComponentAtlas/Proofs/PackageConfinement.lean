import ComponentAtlas.Proofs.ListedPackages

/-!
# Packages stay below the root

The name of a package is one component of a path, so the directory of the package is the one of that
name directly below the root. Looking for fragments goes on from there by the names of entries only:
whatever path is touched on the way starts with the components of that directory. A text that is no
single component names no package, and no path is touched for it.
-/

namespace ComponentAtlas

/-- The path at which something is done. -/
def Access.path : Access → String
  | look path | list path | read path => path

/-- An outcome, and what was done at which path on the way to it, in order. -/
structure Traced (α : Type) where
  outcome : Except Fault α
  accesses : List Access

namespace Traced

variable {α β : Type}

instance : Monad Traced where
  pure value := ⟨.ok value, []⟩
  bind first next :=
    match first.outcome with
    | .error fault => ⟨.error fault, first.accesses⟩
    | .ok value => ⟨(next value).outcome, first.accesses ++ (next value).accesses⟩

instance : LawfulMonad Traced := LawfulMonad.mk' Traced
  (by
    rintro α ⟨outcome, accesses⟩
    cases outcome with
    | error fault => rfl
    | ok value => exact congrArg (Traced.mk _) (List.append_nil accesses))
  (by
    intro α β value next
    rfl)
  (by
    rintro α β γ ⟨outcome, accesses⟩ next last
    cases outcome with
    | error fault => rfl
    | ok value =>
      simp only [bind]
      cases (next value).outcome with
      | error fault => rfl
      | ok result => simp only [List.append_assoc])

/-- A search that keeps a record of the paths. -/
instance : Search Traced where
  ask access answer := ⟨.ok answer, [access]⟩
  ofOutcome outcome := ⟨outcome, []⟩

/-- What is asked for does not change the outcome. -/
theorem outcome_ask_bind (access : Access) (answer : α) (next : α → Traced β) :
    (Search.ask access answer >>= next).outcome = (next answer).outcome :=
  rfl

/-- What is done first is done before what follows. -/
theorem accesses_prefix_bind (first : Traced α) (next : α → Traced β) :
    first.accesses <+: (first >>= next).accesses := by
  obtain ⟨outcome, accesses⟩ := first
  cases outcome with
  | error fault => exact List.prefix_rfl
  | ok value => exact List.prefix_append _ _

/-- The outcome of two runs one after the other is that of their outcomes. -/
theorem outcome_bind (first : Traced α) (next : α → Traced β) :
    (first >>= next).outcome = first.outcome >>= fun value => (next value).outcome := by
  obtain ⟨outcome, accesses⟩ := first
  cases outcome <;> rfl

/-- The outcome of runs over items is that of their outcomes. -/
theorem outcome_mapM (f : α → Traced β) (items : List α) :
    (items.mapM f).outcome = items.mapM fun item => (f item).outcome := by
  induction items with
  | nil => rfl
  | cons item rest ih =>
    rw [List.mapM_cons, mapM_cons_eq, outcome_bind]
    refine congrArg _ (funext fun result => ?_)
    rw [outcome_bind, ih]
    rfl

/-- Whether everything is done at places of a kind, and results are as they should be. -/
structure Keeps (place : String → Prop) (result : α → Prop) (run : Traced α) : Prop where
  accesses : ∀ access ∈ run.accesses, place access.path
  outcome : ∀ value, run.outcome = .ok value → result value

namespace Keeps

variable {place : String → Prop} {middle : α → Prop} {result : β → Prop}

/-- An outcome that asks for nothing keeps to any places when its result is as it should be. -/
theorem ofOutcome {outcome : Except Fault α} (h : ∀ value, outcome = .ok value → middle value) :
    Keeps place middle (Search.ofOutcome outcome) :=
  ⟨fun _ haccess => absurd haccess List.not_mem_nil, h⟩

/-- A fault that asks for nothing keeps to any places, whatever is asked of results. -/
theorem ofFault (fault : Fault) : Keeps place middle (Search.ofOutcome (.error fault)) :=
  ofOutcome fun _ h => by cases h

/-- A run that keeps to a kind of places does so when less is asked of its results. -/
theorem mono {run : Traced α} {weaker : α → Prop} (h : Keeps place middle run)
    (hweaker : ∀ value, middle value → weaker value) : Keeps place weaker run :=
  ⟨h.accesses, fun value hvalue => hweaker value (h.outcome value hvalue)⟩

/-- A run that asks for one thing keeps to a kind of places when this and what follows do. -/
theorem ask_bind {access : Access} (haccess : place access.path) {answer : α}
    {next : α → Traced β} (hnext : Keeps place result (next answer)) :
    Keeps place result (Search.ask access answer >>= next) :=
  ⟨List.forall_mem_cons.mpr ⟨haccess, hnext.accesses⟩, hnext.outcome⟩

/-- A run keeps to a kind of places when its first part does and what follows its results does. -/
theorem bind {first : Traced α} {next : α → Traced β} (hfirst : Keeps place middle first)
    (hnext : ∀ value, middle value → Keeps place result (next value)) :
    Keeps place result (first >>= next) := by
  obtain ⟨outcome, accesses⟩ := first
  cases outcome with
  | error fault => exact ⟨hfirst.accesses, fun _ h => nomatch h⟩
  | ok value =>
    have hvalue := hnext value (hfirst.outcome value rfl)
    exact ⟨List.forall_mem_append.mpr ⟨hfirst.accesses, hvalue.accesses⟩, hvalue.outcome⟩

/-- Runs over items keep to a kind of places when the run over each item does. -/
theorem mapM {f : α → Traced β} {items : List α} (h : ∀ item ∈ items, Keeps place result (f item)) :
    Keeps place (fun results => ∀ value ∈ results, result value) (items.mapM f) := by
  induction items with
  | nil =>
    refine ofOutcome ?_
    rintro all ⟨⟩
    exact fun _ h => nomatch h
  | cons item rest ih =>
    obtain ⟨hitem, hrest⟩ := List.forall_mem_cons.mp h
    rw [List.mapM_cons]
    refine hitem.bind fun value hvalue => (ih hrest).bind fun values hvalues => ofOutcome ?_
    rintro all ⟨⟩
    exact List.forall_mem_cons.mpr ⟨hvalue, hvalues⟩

end Keeps

end Traced

namespace FileSystem

/-- A search starts with the directory that it is for. -/
theorem list_prefix_accesses (files : FileSystem) (path : String) (location : Location)
    (entries : Directory) :
    [.list path] <+: (files.searchFiles path location entries : Traced _).accesses := by
  have hbelow : [.list path] <+:
      (files.searchBelow files.walkDepth [] ⟨location, path⟩ [] entries : Traced _).accesses := by
    obtain ⟨fuel, hfuel⟩ : ∃ fuel, files.walkDepth = fuel + 1 := ⟨_, rfl⟩
    rw [hfuel]
    exact List.cons_prefix_cons.mpr ⟨rfl, List.nil_prefix⟩
  exact hbelow.trans (Traced.accesses_prefix_bind _ _)

section Outcome

variable {files : FileSystem}

/-- A record of the paths does not change what is found at an entry. -/
theorem outcome_searchAt
    {inside : List Ancestor → Ancestor → List String → Directory → Traced (List FragmentFile)}
    {plain : List Ancestor → Ancestor → List String → Directory → Except Fault (List FragmentFile)}
    (hinside : ∀ ancestors around names entries,
      (inside ancestors around names entries).outcome = plain ancestors around names entries)
    (ancestors : List Ancestor) (around : Ancestor) (names : List String) (name : String)
    (entry : FileEntry) :
    (files.searchAt inside ancestors around names name entry).outcome =
      files.fragmentsAt plain ancestors around names name entry := by
  cases entry with
  | file _ => rfl
  | directory entries => exact hinside _ _ _ _
  | link target =>
    rw [fragmentsAt_link]
    simp only [searchAt, Traced.outcome_ask_bind]
    cases files.walk maxLinks around.location [name] with
    | error fault => rfl
    | ok found =>
      obtain ⟨location, entry⟩ := found
      cases entry with
      | file _ | link _ => rfl
      | directory entries =>
        simp only
        cases ancestors.find? fun ancestor => ancestor.location = location with
        | some ancestor => rfl
        | none => exact hinside _ _ _ _

/-- A record of the paths does not change what is found below a directory. -/
theorem outcome_searchBelow (fuel : Nat) (ancestors : List Ancestor) (around : Ancestor)
    (names : List String) (entries : Directory) :
    (files.searchBelow fuel ancestors around names entries : Traced _).outcome =
      files.fragmentsBelow fuel ancestors around names entries := by
  induction fuel generalizing ancestors around names entries with
  | zero => rfl
  | succ fuel ih =>
    rw [fragmentsBelow_succ]
    simp only [searchBelow, Traced.outcome_bind, Traced.outcome_mapM, outcome_searchAt ih]
    rfl

/-- A record of the paths does not change which fragment files there are. -/
theorem outcome_searchFiles (path : String) (location : Location) (entries : Directory) :
    (files.searchFiles path location entries : Traced _).outcome =
      files.fragmentFiles path location entries := by
  rw [searchFiles, Traced.outcome_bind, outcome_searchBelow]
  rfl

end Outcome

/-- Whether a walk has come to a directory by a path that goes on from given components. -/
structure ComesBelow (files : FileSystem) (base : List String) (around : Ancestor)
    (entries : Directory) : Prop where
  here : files.entryAt? around.location = some (.directory entries)
  path_ne : around.path ≠ ""
  below : base <+: pathComponents around.path

section Paths

variable {files : FileSystem} {base : List String} {around : Ancestor} {entries : Directory}
  {name : String}

namespace ComesBelow

/-- The path of an entry goes on from the path of its directory. -/
theorem below_joinPath (h : files.ComesBelow base around entries) (hname : IsEntryName name) :
    base <+: pathComponents (joinPath around.path name) := by
  rw [hname.pathComponents_joinPath h.path_ne]
  exact h.below.trans (List.prefix_append _ _)

/-- The walk comes to a directory in another by the path of its name. -/
theorem enter (h : files.ComesBelow base around entries) (hname : IsEntryName name)
    {location : Location} {inner : Directory}
    (hinner : files.entryAt? location = some (.directory inner)) :
    files.ComesBelow base ⟨location, joinPath around.path name⟩ inner :=
  ⟨hinner, hname.joinPath_ne_empty, h.below_joinPath hname⟩

end ComesBelow

/-- Whether a search touches only paths that go on from given components, and finds only such
files. -/
abbrev SearchesBelow (base : List String) (search : Traced (List FragmentFile)) : Prop :=
  search.Keeps (fun path => base <+: pathComponents path)
    fun found => ∀ file ∈ found, base <+: pathComponents file.path

/-- A search at an entry touches only paths that go on from the given components when the searches
of directories do. -/
theorem searchesBelow_searchAt {files : NamedFiles}
    {inside : List Ancestor → Ancestor → List String → Directory → Traced (List FragmentFile)}
    (hinside : ∀ ancestors around names entries, files.ComesBelow base around entries →
      SearchesBelow base (inside ancestors around names entries))
    (h : files.ComesBelow base around entries) {entry : FileEntry}
    (hentry : (name, entry) ∈ entries) (ancestors : List Ancestor) (names : List String) :
    SearchesBelow base (files.searchAt inside ancestors around names name entry) := by
  have hname : IsEntryName name := files.isEntryName h.here (List.mem_map_of_mem hentry)
  have hfound : SearchesBelow base (pure
      (if isFragmentName name then [⟨joinPath around.path name, names ++ [name]⟩] else [])) := by
    refine .ofOutcome ?_
    rintro found ⟨⟩ file hfile
    split at hfile
    · cases List.mem_singleton.mp hfile
      exact h.below_joinPath hname
    · cases hfile
  cases entry with
  | file _ => exact hfound
  | directory inner =>
    refine hinside _ _ _ _ (h.enter hname ?_)
    rw [entryAt?, entryBelow?_append h.here]
    exact Keyed.find?_of_mem (files.distinct h.here) hentry
  | link target =>
    refine .ask_bind (h.below_joinPath hname) ?_
    split
    · exact .ofFault _
    · rename_i location inner hwalk
      split
      · exact .ofFault _
      · exact hinside _ _ _ _ (h.enter hname (entryAt?_of_walk hwalk))
    · exact hfound

/-- A search below a directory touches only paths that go on from the path of the directory. -/
theorem searchesBelow_searchBelow {files : NamedFiles}
    (h : files.ComesBelow base around entries) (fuel : Nat) (ancestors : List Ancestor)
    (names : List String) :
    SearchesBelow base (files.searchBelow fuel ancestors around names entries) := by
  induction fuel generalizing ancestors around names entries with
  | zero =>
    refine .ofOutcome ?_
    rintro found ⟨⟩
    exact fun _ h => nomatch h
  | succ fuel ih =>
    have hitems := Traced.Keeps.mapM fun item hitem =>
      searchesBelow_searchAt (fun ancestors around names entries hbelow =>
        ih hbelow ancestors names) h hitem (around :: ancestors) names
    refine .ask_bind h.below (hitems.bind fun found hfound => .ofOutcome ?_)
    rintro all ⟨⟩ file hfile
    obtain ⟨atEntry, hentry, hmem⟩ := List.mem_flatten.mp hfile
    exact hfound atEntry hentry file hmem

/-- All fragment files below a directory have paths that go on from the path of the directory. -/
theorem searchesBelow_searchFiles {files : NamedFiles}
    (h : files.ComesBelow base around entries) :
    SearchesBelow base (files.searchFiles around.path around.location entries) := by
  refine (searchesBelow_searchBelow h _ _ _).bind fun found hfound => .ofOutcome ?_
  rintro sorted ⟨⟩ file hfile
  exact hfound file (mem_sortedFragments.mp hfile)

end Paths

end FileSystem

namespace DirectoryFragments

/-- The fragments of a package, with what is done at which path. -/
def tracedOfPackage (fragments : DirectoryFragments) (package : String) : Traced (List Tree) :=
  fragments.search package

variable {fragments : DirectoryFragments} {package : String}

/-- For a text that is no name of a package nothing is done at any path. -/
theorem tracedOfPackage_refused (hpackage : ¬isPackageName package) :
    fragments.tracedOfPackage package = ⟨.error (.unknownPackage package), []⟩ := by
  rw [tracedOfPackage, search, if_pos (by simpa using hpackage)]
  rfl

/-- A record of the paths does not change what the fragments are. -/
theorem outcome_tracedOfPackage (fragments : DirectoryFragments) (package : String) :
    (fragments.tracedOfPackage package).outcome = fragments.ofPackage package := by
  by_cases hpackage : isPackageName package
  · rw [tracedOfPackage, search, hpackage, ofPackage_of_isPackageName hpackage]
    simp only [Bool.not_true, Bool.false_eq_true, if_false, Traced.outcome_ask_bind]
    cases fragments.files.list (fragments.directoryOf package) with
    | error fault => rfl
    | ok found =>
      simp only [Traced.outcome_bind, FileSystem.outcome_searchFiles, Traced.outcome_mapM]
      rfl
  · rw [tracedOfPackage_refused hpackage, ofPackage_of_not_isPackageName hpackage]

/-- The directory of a package is one component below the root. -/
theorem pathComponents_directoryOf (hpackage : IsEntryName package) :
    pathComponents (fragments.directoryOf package) =
      pathComponents fragments.root ++ [package] := by
  rw [directoryOf]
  by_cases hroot : fragments.root = ""
  · have hempty : pathComponents "" = [] := by decide
    rw [hroot, joinPath_empty, hpackage.pathComponents_eq, hempty, List.nil_append]
  · exact hpackage.pathComponents_joinPath hroot

/-- The directory of a package is reached by a path that goes on from its own components. -/
theorem comesBelow_directoryOf {fragments : NamedFragments} (hpackage : isPackageName package)
    {location : Location} {entries : Directory}
    (hlist : fragments.files.list (fragments.directoryOf package) = .ok (location, entries)) :
    fragments.namedFiles.ComesBelow (pathComponents (fragments.directoryOf package))
      ⟨location, fragments.directoryOf package⟩ entries :=
  ⟨FileSystem.entryAt?_of_list hlist, directoryOf_ne_empty hpackage, List.prefix_rfl⟩

/-- The files that are read for a package have paths that go on from the path of its directory. -/
theorem prefix_of_mem_fragmentFiles {fragments : NamedFragments}
    (hpackage : isPackageName package) {location : Location} {entries : Directory}
    (hlist : fragments.files.list (fragments.directoryOf package) = .ok (location, entries))
    {found : List FragmentFile}
    (hfound : fragments.files.fragmentFiles (fragments.directoryOf package) location entries =
      .ok found) {file : FragmentFile} (hfile : file ∈ found) :
    pathComponents (fragments.directoryOf package) <+: pathComponents file.path := by
  have hsearch := FileSystem.searchesBelow_searchFiles (comesBelow_directoryOf hpackage hlist)
  rw [← FileSystem.outcome_searchFiles] at hfound
  exact hsearch.outcome found hfound file hfile

/-- Whatever comes of a package, no path is touched for it that does not go on from the path of its
directory. -/
theorem keeps_tracedOfPackage (fragments : NamedFragments) (package : String) :
    (fragments.tracedOfPackage package).Keeps
      (fun path => pathComponents fragments.root ++ [package] <+: pathComponents path)
      fun _ => True := by
  by_cases hpackage : isPackageName package
  · have hname := (isPackageName_iff.mp hpackage).1
    rw [← pathComponents_directoryOf hname, tracedOfPackage, search, hpackage]
    refine .ask_bind List.prefix_rfl ?_
    rcases hlist : fragments.files.list (fragments.directoryOf package) with
      fault | ⟨location, entries⟩
    · exact .ofFault _
    · have hcomes := comesBelow_directoryOf hpackage hlist
      refine (FileSystem.searchesBelow_searchFiles hcomes).bind fun found hfound => ?_
      exact .mono (.mapM fun file hfile => .ask_bind (hfound file hfile)
        (.ofOutcome fun _ _ => trivial)) fun _ _ => trivial
  · rw [tracedOfPackage_refused hpackage]
    exact .ofFault _

/-- The walk for a package starts at the directory of the package. -/
theorem prefix_accesses_tracedOfPackage (hpackage : isPackageName package)
    {found : Location × Directory}
    (hlist : fragments.files.list (fragments.directoryOf package) = .ok found) :
    [.look (fragments.directoryOf package), .list (fragments.directoryOf package)] <+:
      (fragments.tracedOfPackage package).accesses := by
  obtain ⟨location, entries⟩ := found
  rw [tracedOfPackage, search, hpackage]
  simp only [Bool.not_true, Bool.false_eq_true, if_false, hlist]
  have hsearch := fragments.files.list_prefix_accesses (fragments.directoryOf package) location
    entries
  exact List.cons_prefix_cons.mpr ⟨rfl, hsearch.trans (Traced.accesses_prefix_bind _ _)⟩

/-- A text that is empty, absolute, a dot or two, or has a separator in it names no package. -/
theorem not_isPackageName (h : package = "" ∨ package.startsWith slash ∨ package = "." ∨
    package = ".." ∨ '/' ∈ package.toList ∨ '\\' ∈ package.toList) : ¬isPackageName package := by
  rw [isPackageName_iff]
  rintro ⟨⟨⟨hempty, hdot, hdots⟩, hslash⟩, hother⟩
  rcases h with h | h | h | h | h | h
  · exact hempty h
  · exact hslash (List.mem_of_head? (startsWith_slash_iff.mp h))
  · exact hdot h
  · exact hdots h
  · exact hslash h
  · exact hother h

/-- Packages stay below the root. What is not refused as unknown is a name, its directory is the
component of that name below the root, the walk starts there, and every path that is touched goes on
from there, as does that of every file that is read. A text that is empty, absolute, a dot or two, or
has a separator in it is refused, and no path is touched for it. -/
theorem ofPackage_confined (fragments : NamedFragments) (package : String) :
    (fragments.tracedOfPackage package).outcome = fragments.ofPackage package ∧
    (fragments.ofPackage package ≠ .error (.unknownPackage package) →
      IsEntryName package ∧
      pathComponents (fragments.directoryOf package) =
        pathComponents fragments.root ++ [package] ∧
      [.look (fragments.directoryOf package), .list (fragments.directoryOf package)] <+:
        (fragments.tracedOfPackage package).accesses ∧
      (∀ access ∈ (fragments.tracedOfPackage package).accesses,
        pathComponents fragments.root ++ [package] <+: pathComponents access.path) ∧
      ∃ location entries,
        fragments.files.list (fragments.directoryOf package) = .ok (location, entries) ∧
        fragments.ofPackage package = (do
          let found ← fragments.files.fragmentFiles (fragments.directoryOf package) location entries
          found.mapM fun file => fragments.files.readData Document.tree? file.path) ∧
        ∀ found,
          fragments.files.fragmentFiles (fragments.directoryOf package) location entries =
            .ok found →
          ∀ file ∈ found,
            pathComponents fragments.root ++ [package] <+: pathComponents file.path) ∧
    (package = "" ∨ package.startsWith slash ∨ package = "." ∨ package = ".." ∨
        '/' ∈ package.toList ∨ '\\' ∈ package.toList →
      fragments.ofPackage package = .error (.unknownPackage package) ∧
      (fragments.tracedOfPackage package).accesses = []) := by
  refine ⟨outcome_tracedOfPackage fragments package, fun hknown => ?_, fun hrefused => ?_⟩
  · have hpackage : isPackageName package := by
      refine Classical.byContradiction fun hno => hknown ?_
      rw [← outcome_tracedOfPackage, tracedOfPackage_refused hno]
    obtain ⟨location, entries, hlist⟩ : ∃ location entries,
        fragments.files.list (fragments.directoryOf package) = .ok (location, entries) := by
      cases hlist : fragments.files.list (fragments.directoryOf package) with
      | ok found => exact ⟨found.1, found.2, rfl⟩
      | error fault =>
        refine absurd ?_ hknown
        rw [ofPackage_of_isPackageName hpackage, hlist]
    have hname := (isPackageName_iff.mp hpackage).1
    have hdirectory := @pathComponents_directoryOf fragments package hname
    refine ⟨hname, hdirectory, prefix_accesses_tracedOfPackage hpackage hlist,
      (keeps_tracedOfPackage fragments package).accesses, location, entries, hlist, ?_, ?_⟩
    · rw [ofPackage_of_isPackageName hpackage, hlist]
    · intro found hfound file hfile
      rw [← hdirectory]
      exact prefix_of_mem_fragmentFiles hpackage hlist hfound hfile
  · have hno := not_isPackageName hrefused
    rw [← outcome_tracedOfPackage, tracedOfPackage_refused hno]
    exact ⟨rfl, rfl⟩

/-- A package with a directory in it and a link stays below the root, and a text that leads up from
its directory names no package. -/
theorem ofPackage_confined_of_site :
    ofPackage ⟨siteFiles siteEntries, "frag"⟩ "Site" ≠ .error (.unknownPackage "Site") ∧
    (∀ access ∈ (tracedOfPackage ⟨siteFiles siteEntries, "frag"⟩ "Site").accesses,
      ["frag", "Site"] <+: pathComponents access.path) ∧
    ofPackage ⟨siteFiles siteEntries, "frag"⟩ "Site/../.." =
      .error (.unknownPackage "Site/../..") ∧
    (tracedOfPackage ⟨siteFiles siteEntries, "frag"⟩ "Site/../..").accesses = [] := by
  have hknown : ofPackage ⟨siteFiles siteEntries, "frag"⟩ "Site" ≠
      .error (.unknownPackage "Site") := by
    refine ofPackage_ne_unknownPackage (by decide) ?_ "Site"
    have hdirectory : joinPath "frag" "Site" = "frag/Site" :=
      joinPath_eq (by decide) (by decide) (by decide)
    have hlocate : (siteFiles siteEntries).locate "frag/Site" =
        .ok (["frag", "Site"], .directory siteEntries) :=
      FileSystem.locate_of_entryBelow? (by decide) rfl (by decide) rfl fun _ =>
        FileEntry.noConfusion
    rw [directoryOf, hdirectory, FileSystem.isDirectory, hlocate]
  obtain ⟨-, hconfined, -⟩ := ofPackage_confined namedSite "Site"
  obtain ⟨-, -, hrefused⟩ := ofPackage_confined namedSite "Site/../.."
  have hroot : pathComponents namedSite.root = ["frag"] :=
    IsEntryName.pathComponents_eq (by decide)
  have hslash : '/' ∈ "Site/../..".toList := by decide
  obtain ⟨-, -, -, hbelow, -⟩ := hconfined hknown
  rw [hroot] at hbelow
  exact ⟨hknown, hbelow, hrefused (.inr (.inr (.inr (.inr (.inl hslash)))))⟩

end DirectoryFragments

end ComponentAtlas
