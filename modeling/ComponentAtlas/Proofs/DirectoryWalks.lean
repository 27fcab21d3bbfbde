import ComponentAtlas.Proofs.PathComponents
import ComponentAtlas.Proofs.Successions
import Mathlib.Data.List.Induction
import Mathlib.Data.List.Nodup
import Mathlib.Data.List.Perm.Subperm
import Mathlib.Tactic.Linarith

/-!
# Walks through directories

Names lead from a directory to an entry below it, one directory after the other and through links.
Where no link leads to a directory that it lies in, names lead through no more directories than the
bound of a walk allows, because a walk enters every directory through a link at most once and goes
down from it no further than directories nest. So a walk ends by itself, and it finds every fragment
that names lead to, once.
-/

namespace ComponentAtlas

namespace FileSystem

/-- What a name in a directory stands for, links followed, and where. -/
def resolveIn? (files : FileSystem) (around : Location) (name : String) :
    Option (Location × FileEntry) :=
  match files.entryAt? around with
  | some (.directory entries) =>
    if Keyed.has entries name then (files.walk maxLinks around [name]).toOption else none
  | _ => none

/-- What names below a location stand for, each in the directory that the names before it lead to,
and where. -/
def resolveBelow? (files : FileSystem) (location : Location) :
    List String → Option (Location × FileEntry)
  | [] => (files.entryAt? location).map (location, ·)
  | name :: rest =>
    (files.resolveIn? location name).bind fun found => files.resolveBelow? found.1 rest

variable {files : FileSystem} {top around next : Location} {entries : Directory}
  {names : List String} {name : String} {entry : FileEntry}

/-- The name of an entry leads where a walk by that name leads. -/
theorem resolveIn?_eq (h : files.entryAt? around = some (.directory entries))
    (hname : name ∈ Keyed.keys entries) :
    files.resolveIn? around name = (files.walk maxLinks around [name]).toOption := by
  rw [resolveIn?, h]
  exact if_pos (Keyed.find?_isSome.mpr hname)

/-- What a name leads to is found by a walk from a directory that has an entry of the name. -/
theorem resolveIn?_eq_some (h : files.resolveIn? around name = some (next, entry)) :
    ∃ entries, files.entryAt? around = some (.directory entries) ∧ name ∈ Keyed.keys entries ∧
      files.walk maxLinks around [name] = .ok (next, entry) := by
  rw [resolveIn?] at h
  split at h
  · rename_i entries hentries
    split at h
    · rename_i hname
      refine ⟨entries, hentries, Keyed.find?_isSome.mp hname, ?_⟩
      cases hwalk : files.walk maxLinks around [name] with
      | error fault => rw [hwalk] at h; cases h
      | ok found => rw [hwalk] at h; cases h; rfl
    · cases h
  · cases h

/-- What a name leads to stands at the location that it leads to. -/
theorem entryAt?_of_resolveIn? (h : files.resolveIn? around name = some (next, entry)) :
    files.entryAt? next = some entry := by
  obtain ⟨_, _, _, hwalk⟩ := resolveIn?_eq_some h
  exact entryAt?_of_walk hwalk

/-- What names lead to stands at the location that they lead to. -/
theorem entryAt?_of_resolveBelow? (h : files.resolveBelow? top names = some (around, entry)) :
    files.entryAt? around = some entry := by
  induction names generalizing top with
  | nil =>
    obtain ⟨found, hfound, heq⟩ := Option.map_eq_some_iff.mp h
    cases heq
    exact hfound
  | cons name rest ih =>
    obtain ⟨found, _, hrest⟩ := Option.bind_eq_some_iff.mp h
    exact ih hrest

/-- Without a name to follow, one stays where one is. -/
theorem resolveBelow?_nil (h : files.entryAt? around = some entry) :
    files.resolveBelow? around [] = some (around, entry) := by
  rw [resolveBelow?, h]
  rfl

/-- Further names start where the names before them lead to. -/
theorem resolveBelow?_append (h : files.resolveBelow? top names = some (around, entry))
    (more : List String) :
    files.resolveBelow? top (names ++ more) = files.resolveBelow? around more := by
  induction names generalizing top with
  | nil =>
    obtain ⟨found, hfound, heq⟩ := Option.map_eq_some_iff.mp h
    cases heq
    rfl
  | cons name rest ih =>
    obtain ⟨found, hfound, hrest⟩ := Option.bind_eq_some_iff.mp h
    rw [List.cons_append, resolveBelow?, hfound, Option.bind_some]
    exact ih hrest

/-- To follow one name is to look it up in the directory. -/
theorem resolveBelow?_singleton :
    files.resolveBelow? around [name] = files.resolveIn? around name := by
  rw [resolveBelow?]
  cases h : files.resolveIn? around name with
  | none => rfl
  | some found => exact resolveBelow?_nil (entryAt?_of_resolveIn? h)

/-- The last of several names stands in a directory that the names before it lead to. -/
theorem exists_of_resolveBelow?_concat
    (h : files.resolveBelow? top (names ++ [name]) = some (next, entry)) :
    ∃ around entries, files.resolveBelow? top names = some (around, .directory entries) ∧
      files.resolveIn? around name = some (next, entry) := by
  induction names generalizing top with
  | nil =>
    rw [List.nil_append, resolveBelow?_singleton] at h
    obtain ⟨entries, hentries, -⟩ := resolveIn?_eq_some h
    exact ⟨top, entries, resolveBelow?_nil hentries, h⟩
  | cons first rest ih =>
    obtain ⟨found, hfound, hrest⟩ := Option.bind_eq_some_iff.mp h
    obtain ⟨around, entries, haround, hname⟩ := ih hrest
    refine ⟨around, entries, ?_, hname⟩
    rw [resolveBelow?, hfound]
    exact haround

/-- What holds of a directory and of each directory that a name in such a directory leads to holds of
all directories that names lead to. -/
theorem resolveBelow?_induction {motive : List String → Location → Directory → Prop}
    (here : ∀ entries, files.entryAt? top = some (.directory entries) → motive [] top entries)
    (step : ∀ names around entries, motive names around entries → ∀ name next inner,
      files.resolveIn? around name = some (next, .directory inner) →
        motive (names ++ [name]) next inner)
    (names : List String) {around : Location} {entries : Directory}
    (h : files.resolveBelow? top names = some (around, .directory entries)) :
    motive names around entries := by
  induction names using List.reverseRecOn generalizing around entries with
  | nil =>
    obtain ⟨_, hentry, heq⟩ := Option.map_eq_some_iff.mp h
    cases heq
    exact here _ hentry
  | append_singleton names name ih =>
    obtain ⟨before, inner, hbefore, hname⟩ := exists_of_resolveBelow?_concat h
    exact step _ _ _ (ih hbefore) _ _ _ hname

/-- Whether everything below a directory can be listed: every name in it stands for something, and no
link leads back to a directory that the way to it goes through. -/
structure Listable (files : FileSystem) (top : Location) : Prop where
  resolves : ∀ names around entries,
    files.resolveBelow? top names = some (around, .directory entries) →
    ∀ name ∈ Keyed.keys entries, (files.resolveIn? around name).isSome
  ends : ∀ names around entries,
    files.resolveBelow? top names = some (around, .directory entries) →
    ∀ name target next inner, Keyed.find? entries name = some (.link target) →
      files.resolveIn? around name = some (next, .directory inner) →
      ∀ before, before <+: names → ∀ entry, files.resolveBelow? top before ≠ some (next, entry)

/-- A name that stands for no link leads down by itself. -/
theorem resolveIn?_of_isNoLink (files : NamedFiles)
    (haround : files.entryAt? around = some (.directory entries))
    (hentry : entries.find? name = some entry) (hlink : entry.IsNoLink) :
    files.resolveIn? around name = some (around ++ [name], entry) := by
  have hname : name ∈ Keyed.keys entries := Keyed.mem_keys_of_find? hentry
  have hfound : files.entryAt? (around ++ [name]) = some entry :=
    (entryBelow?_append haround name).trans hentry
  rw [resolveIn?_eq haround hname,
    walk_cons haround (files.isEntryName haround hname).1 hentry hlink, walk_nil hfound]
  rfl

/-- A link leads where its target leads from the directory that it stands in. -/
theorem walk_link (haround : files.entryAt? around = some (.directory entries))
    {step target : String} (hstep : LeadsDown step)
    (hfind : entries.find? step = some (.link target)) (links : Nat) (rest : List String) :
    files.walk (links + 1) around (step :: rest) =
      files.walk links (start around target) (pathSteps target ++ rest) := by
  obtain ⟨hempty, hhere, hup⟩ := hstep
  rw [walk.eq_def, haround]
  simp only [hempty, hhere, hup, or_self, if_false, hfind]

/-- There are fewer steps to a directory than there are directories. -/
theorem length_lt_directories (h : files.entryAt? around = some (.directory entries)) :
    around.length < files.directories.length := by
  have hprefix : ∀ before, before <+: around → before ∈ files.directories.map Prod.fst := by
    rintro before ⟨after, rfl⟩
    by_cases hafter : after = []
    · subst hafter
      rw [List.append_nil] at h
      exact List.mem_map_of_mem (mem_directories h)
    · obtain ⟨inner, hinner⟩ := exists_directory_of_prefix h hafter
      exact List.mem_map_of_mem (mem_directories hinner)
  let prefixes := (List.range (around.length + 1)).map around.take
  have hnodup : prefixes.Nodup := by
    refine List.Nodup.map_on (fun m hm n hn heq => ?_) List.nodup_range
    have hlength := congrArg List.length heq
    rw [List.length_take, List.length_take] at hlength
    rw [List.mem_range] at hm hn
    omega
  have hsubset : prefixes ⊆ files.directories.map Prod.fst := by
    intro before hbefore
    obtain ⟨count, -, rfl⟩ := List.mem_map.mp hbefore
    exact hprefix _ (List.take_prefix count around)
  have hlength := (hnodup.subperm hsubset).length_le
  rw [List.length_map, List.length_map, List.length_range] at hlength
  exact hlength

/-- The way to a directory: the links on it lead to different directories, and between two of them it
goes down no further than directories nest. -/
theorem exists_links {files : NamedFiles} (hlistable : files.Listable top)
    (h : files.resolveBelow? top names = some (around, .directory entries)) :
    ∃ linked : List Location, linked.Nodup ∧
      (∀ location ∈ linked, ∃ before inner, before <+: names ∧
        files.resolveBelow? top before = some (location, .directory inner)) ∧
      names.length ≤ linked.length * files.directories.length + around.length := by
  -- The induction is on the last name: a link leads to a directory that the way has not been in, and
  -- any other name leads one step further down from the last link.
  induction names using List.reverseRecOn generalizing around entries with
  | nil => exact ⟨[], List.nodup_nil, fun _ h => absurd h List.not_mem_nil, Nat.zero_le _⟩
  | append_singleton names name ih =>
    obtain ⟨before, inner, hbefore, hname⟩ := exists_of_resolveBelow?_concat h
    obtain ⟨linked, hnodup, hlinked, hlength⟩ := ih hbefore
    have hkept : ∀ location ∈ linked, ∃ start inner, start <+: names ++ [name] ∧
        files.resolveBelow? top start = some (location, .directory inner) := by
      intro location hlocation
      obtain ⟨start, inner, hstart, hfound⟩ := hlinked location hlocation
      exact ⟨start, inner, hstart.trans (List.prefix_append names [name]), hfound⟩
    have hinner : files.entryAt? before = some (.directory inner) :=
      entryAt?_of_resolveBelow? hbefore
    obtain ⟨listed, hlisted, hmem, -⟩ := resolveIn?_eq_some hname
    cases hinner.symm.trans hlisted
    obtain ⟨entry, hentry⟩ := Option.isSome_iff_exists.mp (Keyed.find?_isSome.mpr hmem)
    rw [List.length_append, List.length_singleton]
    by_cases hlink : ∃ target, entry = .link target
    · obtain ⟨target, rfl⟩ := hlink
      have hends := hlistable.ends names before inner hbefore name target around entries hentry hname
      refine ⟨around :: linked, List.nodup_cons.mpr ⟨fun hold => ?_, hnodup⟩, ?_, ?_⟩
      · obtain ⟨start, entry, hstart, hfound⟩ := hlinked around hold
        exact hends start hstart _ hfound
      · exact List.forall_mem_cons.mpr ⟨⟨_, entries, List.prefix_rfl, h⟩, hkept⟩
      · have hdepth := length_lt_directories hinner
        rw [List.length_cons, Nat.add_mul]
        omega
    · have hnoLink : entry.IsNoLink := fun target heq => hlink ⟨target, heq⟩
      have hplain := resolveIn?_of_isNoLink files hinner hentry hnoLink
      cases hplain.symm.trans hname
      refine ⟨linked, hnodup, hkept, ?_⟩
      rw [List.length_append, List.length_singleton]
      omega

/-- Names lead through fewer directories than a walk may be inside. -/
theorem length_lt_walkDepth {files : NamedFiles} (hlistable : files.Listable top)
    (h : files.resolveBelow? top names = some (around, .directory entries)) :
    names.length < files.walkDepth := by
  obtain ⟨linked, hnodup, hlinked, hlength⟩ := exists_links hlistable h
  have hsubset : linked ⊆ files.directories.map Prod.fst := by
    intro location hlocation
    obtain ⟨before, inner, -, hbefore⟩ := hlinked location hlocation
    exact List.mem_map_of_mem (mem_directories (entryAt?_of_resolveBelow? hbefore))
  have hcount := (hnodup.subperm hsubset).length_le
  have hdepth := length_lt_directories (entryAt?_of_resolveBelow? h)
  rw [List.length_map] at hcount
  rw [length_directories] at hcount hdepth hlength
  -- No more links than directories, and fewer steps after each of them than there are directories.
  have hproduct := Nat.mul_le_mul_right (directoriesBelow files.root + 1) hcount
  rw [walkDepth]
  nlinarith

/-- Whether names lead to a regular file with the extension of a fragment. -/
def IsFragment (files : FileSystem) (top : Location) (names : List String) : Prop :=
  (∃ location content, files.resolveBelow? top names = some (location, .file content)) ∧
    ∃ last, names.getLast? = some last ∧ extension? last ∈ [some "json", some "yaml", some "yml"]

instance : DecidablePred (files.IsFragment top) := fun names =>
  decidable_of_iff
    ((match files.resolveBelow? top names, names.getLast? with
      | some (_, .file _), some last => isFragmentName last
      | _, _ => false : Bool) = true) <| by
    rw [IsFragment]
    split
    · rename_i location content last hfound hlast
      simp only [hfound, hlast, isFragmentName_iff, Option.some.injEq, Prod.mk.injEq,
        FileEntry.file.injEq, exists_and_left, exists_eq', and_true, exists_eq_left', true_and]
    · rename_i hnone
      refine iff_of_false Bool.false_ne_true ?_
      rintro ⟨⟨location, content, hfound⟩, last, hlast, -⟩
      exact hnone location content last hfound hlast

/-- The fragment file that names lead to from a directory. -/
def fragmentFile (directory : String) (names : List String) : FragmentFile :=
  ⟨names.foldl joinPath directory, names⟩

/-- Whether a list holds each fragment to which given names and some names after them lead, once, and
nothing else. -/
structure ListsFragments (files : FileSystem) (top : Location) (directory : String)
    (names : List String) (found : List FragmentFile) : Prop where
  nodup : (found.map FragmentFile.names).Nodup
  mem_iff : ∀ file, file ∈ found ↔ ∃ below, files.IsFragment top (names ++ below) ∧
    file = fragmentFile directory (names ++ below)

/-- Where a walk is: names have led it to a directory, and it is inside directories that the first of
them lead to. -/
structure WalksAt (files : FileSystem) (top : Location) (directory : String)
    (ancestors : List Ancestor) (around : Ancestor) (names : List String) (entries : Directory) :
    Prop where
  here : files.resolveBelow? top names = some (around.location, .directory entries)
  path : around.path = names.foldl joinPath directory
  inside : ∀ ancestor ∈ around :: ancestors, ∃ before entry, before <+: names ∧
    files.resolveBelow? top before = some (ancestor.location, entry)

section Walk

variable {directory : String}

/-- The last name is looked up in the directory to which the names before it lead. -/
theorem resolveBelow?_concat (h : files.resolveBelow? top names = some (around, entry)) :
    files.resolveBelow? top (names ++ [name]) = files.resolveIn? around name := by
  rw [resolveBelow?_append h, resolveBelow?_singleton]

/-- No names lead on from a file. -/
theorem not_isFragment_below_file {location : Location} {content : ByteArray}
    (h : files.resolveBelow? top names = some (location, .file content)) {below : List String}
    (hbelow : files.IsFragment top (names ++ below)) : below = [] := by
  obtain ⟨⟨place, found, hfound⟩, -⟩ := hbelow
  rw [resolveBelow?_append h] at hfound
  cases below with
  | nil => rfl
  | cons first rest =>
    obtain ⟨step, hstep, -⟩ := Option.bind_eq_some_iff.mp hfound
    obtain ⟨entries, hentries, -⟩ := resolveIn?_eq_some hstep
    rw [entryAt?_of_resolveBelow? h] at hentries
    cases hentries

/-- A directory is no fragment. -/
theorem not_isFragment_directory
    (h : files.resolveBelow? top names = some (around, .directory entries)) :
    ¬files.IsFragment top names := by
  rintro ⟨⟨place, found, hfound⟩, -⟩
  rw [h] at hfound
  cases hfound

/-- A file is listed when its name is that of a fragment. -/
theorem listsFragments_file {location : Location} {content : ByteArray}
    (h : files.resolveBelow? top (names ++ [name]) = some (location, .file content)) :
    files.ListsFragments top directory (names ++ [name])
      (if isFragmentName name then [fragmentFile directory (names ++ [name])] else []) where
  nodup := by
    split
    · exact List.nodup_singleton _
    · exact List.nodup_nil
  mem_iff file := by
    have hlast : (names ++ [name]).getLast? = some name := List.getLast?_concat
    constructor
    · intro hfile
      split at hfile
      · rename_i hname
        refine ⟨[], ?_, ?_⟩
        · rw [List.append_nil]
          exact ⟨⟨location, content, h⟩, name, hlast, isFragmentName_iff.mp hname⟩
        · rw [List.append_nil]
          exact List.mem_singleton.mp hfile
      · cases hfile
    · rintro ⟨below, hbelow, rfl⟩
      obtain rfl := not_isFragment_below_file h hbelow
      rw [List.append_nil] at hbelow ⊢
      obtain ⟨-, last, hgetLast, hname⟩ := hbelow
      rw [hlast] at hgetLast
      cases hgetLast
      rw [if_pos (isFragmentName_iff.mpr hname)]
      exact List.mem_singleton_self _

/-- A directory lists what its entries list. -/
theorem listsFragments_flatMap (hdistinct : entries.Distinct)
    (h : files.resolveBelow? top names = some (around, .directory entries))
    {found : String × FileEntry → List FragmentFile}
    (hfound : ∀ entry ∈ entries,
      files.ListsFragments top directory (names ++ [entry.1]) (found entry)) :
    files.ListsFragments top directory names (entries.flatMap found) where
  nodup := by
    rw [List.map_flatMap, List.nodup_flatMap]
    refine ⟨fun entry hentry => (hfound entry hentry).nodup, ?_⟩
    have hpairs : entries.Pairwise fun left right => left.1 ≠ right.1 :=
      List.pairwise_map.mp hdistinct
    refine hpairs.imp_of_mem fun {left right} hleft hright hne => ?_
    intro listed hinLeft hinRight
    obtain ⟨leftFile, hleftFile, rfl⟩ := List.mem_map.mp hinLeft
    obtain ⟨rightFile, hrightFile, heq⟩ := List.mem_map.mp hinRight
    obtain ⟨below, -, rfl⟩ := ((hfound left hleft).mem_iff leftFile).mp hleftFile
    obtain ⟨other, -, rfl⟩ := ((hfound right hright).mem_iff rightFile).mp hrightFile
    have hnames : names ++ [right.1] ++ other = names ++ [left.1] ++ below := heq
    rw [List.append_assoc, List.append_assoc, List.append_right_inj] at hnames
    exact hne (List.cons.inj hnames).1.symm
  mem_iff file := by
    rw [List.mem_flatMap]
    constructor
    · rintro ⟨entry, hentry, hfile⟩
      obtain ⟨below, hbelow, rfl⟩ := ((hfound entry hentry).mem_iff file).mp hfile
      rw [List.append_assoc] at hbelow ⊢
      exact ⟨[entry.1] ++ below, hbelow, rfl⟩
    · rintro ⟨below, hbelow, rfl⟩
      cases below with
      | nil => exact absurd (List.append_nil names ▸ hbelow) (not_isFragment_directory h)
      | cons name rest =>
        obtain ⟨⟨place, content, hplace⟩, -⟩ := id hbelow
        rw [resolveBelow?_append h] at hplace
        obtain ⟨step, hstep, -⟩ := Option.bind_eq_some_iff.mp hplace
        obtain ⟨listed, hlisted, hname, -⟩ := resolveIn?_eq_some hstep
        cases hlisted.symm.trans (entryAt?_of_resolveBelow? h)
        obtain ⟨entry, hentry, rfl⟩ := List.mem_map.mp hname
        refine ⟨entry, hentry, ((hfound entry hentry).mem_iff _).mpr ⟨rest, ?_, ?_⟩⟩
        · rwa [List.append_assoc]
        · rw [List.append_assoc]
          rfl

section Entries

variable {inside : List Ancestor → Ancestor → List String → Directory →
    Except Fault (List FragmentFile)} {ancestors : List Ancestor} {here : Ancestor}

/-- A walk enters the directory that a name leads to, through a link or not. -/
theorem fragmentsAt_of_directory {files : NamedFiles} (hlistable : files.Listable top)
    (hwalks : files.WalksAt top directory ancestors here names entries)
    (hentry : (name, entry) ∈ entries) {inner : Directory}
    (hname : files.resolveIn? here.location name = some (next, .directory inner)) :
    files.fragmentsAt inside (here :: ancestors) here names name entry =
      inside (here :: ancestors) ⟨next, joinPath here.path name⟩ (names ++ [name]) inner := by
  have hhere := entryAt?_of_resolveBelow? hwalks.here
  have hfind : entries.find? name = some entry :=
    Keyed.find?_of_mem (files.distinct hhere) hentry
  cases entry with
  | file content =>
    rw [resolveIn?_of_isNoLink files hhere hfind fun _ => FileEntry.noConfusion] at hname
    cases hname
  | directory entries =>
    rw [resolveIn?_of_isNoLink files hhere hfind fun _ => FileEntry.noConfusion] at hname
    cases hname
    rfl
  | link target =>
    obtain ⟨_, _, _, hwalk⟩ := resolveIn?_eq_some hname
    have hnew : (here :: ancestors).find? (fun ancestor => ancestor.location = next) = none := by
      refine List.find?_eq_none.mpr fun ancestor hancestor hlocation => ?_
      obtain ⟨before, entry, hbefore, hfound⟩ := hwalks.inside ancestor hancestor
      rw [of_decide_eq_true hlocation] at hfound
      exact hlistable.ends names _ _ hwalks.here name target next inner hfind hname before hbefore
        entry hfound
    simp only [fragmentsAt_link, hwalk, hnew]

/-- A walk lists the file that a name leads to, through a link or not, when the name is that of a
fragment. -/
theorem fragmentsAt_of_file {files : NamedFiles}
    (hwalks : files.WalksAt top directory ancestors here names entries)
    (hentry : (name, entry) ∈ entries) {content : ByteArray}
    (hname : files.resolveIn? here.location name = some (next, .file content)) :
    files.fragmentsAt inside (here :: ancestors) here names name entry =
      .ok (if isFragmentName name then [fragmentFile directory (names ++ [name])] else []) := by
  have hhere := entryAt?_of_resolveBelow? hwalks.here
  have hfind : entries.find? name = some entry :=
    Keyed.find?_of_mem (files.distinct hhere) hentry
  have hfile : fragmentFile directory (names ++ [name]) =
      ⟨joinPath here.path name, names ++ [name]⟩ := by
    rw [fragmentFile, List.foldl_concat, hwalks.path]
  rw [hfile]
  cases entry with
  | file content => rfl
  | directory entries =>
    rw [resolveIn?_of_isNoLink files hhere hfind fun _ => FileEntry.noConfusion] at hname
    cases hname
  | link target =>
    obtain ⟨_, _, _, hwalk⟩ := resolveIn?_eq_some hname
    simp only [fragmentsAt_link, hwalk]

/-- A walk that enters a directory is inside it and all directories before. -/
theorem WalksAt.enter (hwalks : files.WalksAt top directory ancestors here names entries)
    {inner : Directory}
    (hname : files.resolveIn? here.location name = some (next, .directory inner)) :
    files.WalksAt top directory (here :: ancestors) ⟨next, joinPath here.path name⟩
      (names ++ [name]) inner := by
  have hnext : files.resolveBelow? top (names ++ [name]) = some (next, .directory inner) :=
    (resolveBelow?_concat hwalks.here).trans hname
  refine ⟨hnext, ?_, List.forall_mem_cons.mpr ⟨⟨_, _, List.prefix_rfl, hnext⟩, ?_⟩⟩
  · rw [List.foldl_concat, hwalks.path]
  · intro ancestor hancestor
    obtain ⟨before, entry, hbefore, hfound⟩ := hwalks.inside ancestor hancestor
    exact ⟨before, entry, hbefore.trans (List.prefix_append names [name]), hfound⟩

end Entries

/-- Where everything can be listed, a walk has an end, and it lists every fragment once. -/
theorem exists_fragmentsBelow {files : NamedFiles} (hlistable : files.Listable top)
    {fuel : Nat} {ancestors : List Ancestor} {here : Ancestor}
    (hwalks : files.WalksAt top directory ancestors here names entries)
    (hfuel : files.walkDepth ≤ names.length + fuel) :
    ∃ found, files.fragmentsBelow fuel ancestors here names entries = .ok found ∧
      files.ListsFragments top directory names found := by
  -- The fuel never runs out: no names lead through as many directories as the walk may be inside.
  induction fuel generalizing ancestors here names entries with
  | zero =>
    have hlength := length_lt_walkDepth hlistable hwalks.here
    omega
  | succ fuel ih =>
    have hhere := entryAt?_of_resolveBelow? hwalks.here
    have hitem : ∀ item ∈ entries, ∃ found,
        files.fragmentsAt (files.fragmentsBelow fuel) (here :: ancestors) here names item.1 item.2 =
          .ok found ∧ files.ListsFragments top directory (names ++ [item.1]) found := by
      rintro ⟨name, entry⟩ hentry
      obtain ⟨⟨next, target⟩, hname⟩ := Option.isSome_iff_exists.mp <|
        hlistable.resolves names _ _ hwalks.here name (List.mem_map_of_mem hentry)
      cases target with
      | link target =>
        obtain ⟨_, hentries, _, hwalk⟩ := resolveIn?_eq_some hname
        have hlocation : ∀ other, files.entryAt? here.location ≠ some (.link other) := by
          intro other hother
          rw [hentries] at hother
          cases hother
        exact absurd rfl (isNoLink_of_walk hlocation hwalk target)
      | file content =>
        have hnext := (resolveBelow?_concat hwalks.here).trans hname
        exact ⟨_, fragmentsAt_of_file hwalks hentry hname, listsFragments_file hnext⟩
      | directory inner =>
        have hentered := hwalks.enter hname
        rw [fragmentsAt_of_directory hlistable hwalks hentry hname]
        refine ih hentered ?_
        rw [List.length_append, List.length_singleton]
        omega
    choose! found hfound hlists using hitem
    have hall : entries.mapM (fun item => files.fragmentsAt (files.fragmentsBelow fuel)
        (here :: ancestors) here names item.1 item.2) = .ok (entries.map found) := by
      rw [mapM_eq_ok, List.forall₂_map_right_iff, List.forall₂_same]
      exact hfound
    have hlisted := listsFragments_flatMap (files.distinct hhere) hwalks.here hlists
    refine ⟨entries.flatMap found, ?_, hlisted⟩
    rw [fragmentsBelow_succ]
    exact bind_eq_ok.mpr ⟨_, hall, congrArg Except.ok List.flatMap_def.symm⟩

end Walk

end FileSystem

end ComponentAtlas
