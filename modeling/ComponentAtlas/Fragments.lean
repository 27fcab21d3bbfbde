import ComponentAtlas.Codec.Tree
import ComponentAtlas.DataFile

/-!
# Fragments

The trees that a package is merged from, in order of precedence. They are registered one by one, or
they are files: below a root every directory is a package, and its data files, wherever they lie in it,
are its fragments in the order of their paths.
-/

namespace ComponentAtlas

/-- Texts in ascending order of their code points. -/
def sortedTexts (texts : List String) : List String :=
  texts.mergeSort fun left right => decide (left ≤ right)

/-- Fragments that have been registered, by package. -/
structure MemoryFragments where
  trees : Keyed (List Tree) := []
  deriving Inhabited

namespace MemoryFragments

/-- Registers a fragment of a package, behind those that it has. -/
def add (fragments : MemoryFragments) (package : String) (tree : Tree) : MemoryFragments :=
  { trees := fragments.trees.insert package ((fragments.trees.find? package).getD [] ++ [tree]) }

/-- The packages, sorted. -/
def packages (fragments : MemoryFragments) : List String :=
  sortedTexts fragments.trees.keys

/-- The fragments of a package. -/
def ofPackage (fragments : MemoryFragments) (package : String) : Except Fault (List Tree) :=
  match fragments.trees.find? package with
  | some trees => .ok trees
  | none => .error (.unknownPackage package)

end MemoryFragments

/-- A fragment file: its path, and the names that lead to it from the directory of its package. -/
structure FragmentFile where
  path : String
  names : List String
  deriving DecidableEq, Inhabited

/-- Whether names do not come after others, compared one by one. -/
def namesOrdered : (left : List String) → (right : List String) → Bool
  | [], _ => true
  | _ :: _, [] => false
  | a :: left, b :: right => if a = b then namesOrdered left right else decide (a ≤ b)

/-- A directory that a walk is inside, as it was reached. -/
structure Ancestor where
  location : Location
  path : String
  deriving DecidableEq, Inhabited

/-- What is done at a path. -/
inductive Access
  /-- Looks at what stands at the path. -/
  | look (path : String)
  /-- Lists the entries of the directory at the path. -/
  | list (path : String)
  /-- Reads the file at the path. -/
  | read (path : String)
  deriving DecidableEq

/-- A way to carry out a search in files. Each answer of the file system is asked for at a path. -/
class Search (m : Type → Type) extends Monad m where
  /-- Goes on with the answer that the file system gives at a path. -/
  ask {α : Type} (access : Access) (answer : α) : m α
  /-- Goes on with a value or ends with a fault. -/
  ofOutcome {α : Type} (outcome : Except Fault α) : m α

/-- The program takes the answers and keeps no record of the paths. -/
instance : Search (Except Fault) where
  ask _ answer := .ok answer
  ofOutcome := id

/-- Whether a name is that of a fragment. -/
def isFragmentName (name : String) : Bool :=
  match DataFormat.ofPath? name with
  | some .json | some .yaml => true
  | _ => false

namespace FileSystem

mutual

/-- The number of directories at and below an entry. -/
def directoriesAt : FileEntry → Nat
  | .directory entries => 1 + directoriesBelow entries
  | _ => 0

/-- The number of directories at and below entries. -/
def directoriesBelow : List (String × FileEntry) → Nat
  | [] => 0
  | (_, entry) :: rest => directoriesAt entry + directoriesBelow rest

end

/-- A walk is never inside more directories than this: on its way each directory is entered through a
link at most once. -/
def walkDepth (files : FileSystem) : Nat :=
  (directoriesBelow files.root + 2) * (directoriesBelow files.root + 2)

section Search

variable {m : Type → Type} [Search m]

/-- Searches at an entry, given how to search the entries of a directory that is entered. An entry
that cannot be reached is a fault, and so is a link to a directory around it. -/
def searchAt (files : FileSystem)
    (inside : List Ancestor → Ancestor → List String → Directory → m (List FragmentFile))
    (ancestors : List Ancestor) (around : Ancestor) (names : List String) (name : String)
    (entry : FileEntry) : m (List FragmentFile) :=
  let path := joinPath around.path name
  let names := names ++ [name]
  let found : List FragmentFile := if isFragmentName name then [{ path, names }] else []
  match entry with
  | .file _ => pure found
  | .directory entries => inside ancestors ⟨around.location ++ [name], path⟩ names entries
  | .link _ => do
    match ← Search.ask (.look path) (files.walk maxLinks around.location [name]) with
    | .error fault => Search.ofOutcome (.error (.unreadable path (.entry path fault)))
    | .ok (location, .directory entries) =>
      match ancestors.find? fun ancestor => ancestor.location = location with
      | some ancestor =>
        Search.ofOutcome (.error (.unreadable path (.loop path ancestor.path)))
      | none => inside ancestors ⟨location, path⟩ names entries
    | .ok _ => pure found

/-- Searches below a directory, in the order in which directories list their entries. -/
def searchBelow (files : FileSystem) : (fuel : Nat) → (ancestors : List Ancestor) →
    (around : Ancestor) → (names : List String) → Directory → m (List FragmentFile)
  | 0, _, _, _, _ => pure []
  | fuel + 1, ancestors, around, names, entries => do
    let listed ← Search.ask (.list around.path) entries
    let found ← listed.mapM fun (name, entry) =>
      files.searchAt (searchBelow files fuel) (around :: ancestors) around names name entry
    return found.flatten

/-- Searches below a directory for its fragment files and sorts them by the names in their paths. -/
def searchFiles (files : FileSystem) (path : String) (location : Location)
    (entries : Directory) : m (List FragmentFile) := do
  let found ← files.searchBelow files.walkDepth [] ⟨location, path⟩ [] entries
  return found.mergeSort fun left right => namesOrdered left.names right.names

end Search

/-- The fragments at an entry, given those below a directory that is entered. -/
def fragmentsAt (files : FileSystem)
    (inside : List Ancestor → Ancestor → List String → Directory → Except Fault (List FragmentFile))
    (ancestors : List Ancestor) (around : Ancestor) (names : List String) (name : String)
    (entry : FileEntry) : Except Fault (List FragmentFile) :=
  files.searchAt inside ancestors around names name entry

/-- The fragments below a directory, in the order in which directories list them. -/
def fragmentsBelow (files : FileSystem) (fuel : Nat) (ancestors : List Ancestor)
    (around : Ancestor) (names : List String) (entries : Directory) :
    Except Fault (List FragmentFile) :=
  files.searchBelow fuel ancestors around names entries

/-- The fragment files below a directory, sorted by the names in their paths. -/
def fragmentFiles (files : FileSystem) (path : String) (location : Location)
    (entries : Directory) : Except Fault (List FragmentFile) :=
  files.searchFiles path location entries

/-- At a link the fragments are those of what it leads to. -/
theorem fragmentsAt_link {files : FileSystem}
    {inside : List Ancestor → Ancestor → List String → Directory →
      Except Fault (List FragmentFile)}
    {ancestors : List Ancestor} {around : Ancestor} {names : List String} {name target : String} :
    files.fragmentsAt inside ancestors around names name (.link target) =
      match files.walk maxLinks around.location [name] with
      | .error fault =>
        .error (.unreadable (joinPath around.path name) (.entry (joinPath around.path name) fault))
      | .ok (location, .directory entries) =>
        match ancestors.find? fun ancestor => ancestor.location = location with
        | some ancestor => .error (.unreadable (joinPath around.path name)
            (.loop (joinPath around.path name) ancestor.path))
        | none => inside ancestors ⟨location, joinPath around.path name⟩ (names ++ [name]) entries
      | .ok _ => .ok (if isFragmentName name then
          [⟨joinPath around.path name, names ++ [name]⟩] else []) :=
  rfl

/-- Below a directory the fragments are those at its entries. -/
theorem fragmentsBelow_succ {files : FileSystem} {fuel : Nat} {ancestors : List Ancestor}
    {around : Ancestor} {names : List String} {entries : Directory} :
    files.fragmentsBelow (fuel + 1) ancestors around names entries = (do
      let found ← entries.mapM fun item => files.fragmentsAt (files.fragmentsBelow fuel)
        (around :: ancestors) around names item.1 item.2
      return found.flatten) :=
  rfl

end FileSystem

/-- Whether a text names a single directory below a root. -/
def isPackageName (package : String) : Bool :=
  package ≠ "" && package ≠ "." && package ≠ ".." &&
    !package.toList.any fun c => c = '/' || c = '\\'

/-- Fragments in files below a root. -/
structure DirectoryFragments where
  files : FileSystem
  root : String
  deriving Inhabited

namespace DirectoryFragments

/-- The directory of a package. -/
def directoryOf (fragments : DirectoryFragments) (package : String) : String :=
  joinPath fragments.root package

/-- The packages, sorted: the directories below the root whose names start with no dot. -/
def packages (fragments : DirectoryFragments) : Except Fault (List String) :=
  match fragments.files.list fragments.root with
  | .error fault => .error (.unreadable fragments.root (.file fault))
  | .ok (_, entries) =>
    .ok <| sortedTexts <| entries.keys.filter fun name =>
      fragments.files.isDirectory (fragments.directoryOf name) && !name.startsWith "."

/-- Searches for the fragments of a package. All files are found before the first is read. -/
def search {m : Type → Type} [Search m] (fragments : DirectoryFragments) (package : String) :
    m (List Tree) :=
  if !isPackageName package then Search.ofOutcome (.error (.unknownPackage package))
  else do
    let path := fragments.directoryOf package
    match ← Search.ask (.look path) (fragments.files.list path) with
    | .error _ => Search.ofOutcome (.error (.unknownPackage package))
    | .ok (location, entries) =>
      let found ← fragments.files.searchFiles path location entries
      found.mapM fun file => do
        Search.ofOutcome
          (← Search.ask (.read file.path) (fragments.files.readData Document.tree? file.path))

/-- The fragments of a package. -/
def ofPackage (fragments : DirectoryFragments) (package : String) : Except Fault (List Tree) :=
  fragments.search package

/-- A text that is no name of a package stands for none. -/
theorem ofPackage_of_not_isPackageName {fragments : DirectoryFragments} {package : String}
    (hpackage : ¬isPackageName package) :
    fragments.ofPackage package = .error (.unknownPackage package) :=
  if_pos (by rwa [Bool.not_eq_true', ← Bool.not_eq_true])

/-- The fragments of a package are read from the files found below its directory. -/
theorem ofPackage_of_isPackageName {fragments : DirectoryFragments} {package : String}
    (hpackage : isPackageName package) :
    fragments.ofPackage package =
      match fragments.files.list (fragments.directoryOf package) with
      | .error _ => .error (.unknownPackage package)
      | .ok (location, entries) =>
        fragments.files.fragmentFiles (fragments.directoryOf package) location entries >>= fun found =>
          found.mapM fun file => fragments.files.readData Document.tree? file.path := by
  rw [ofPackage, search, hpackage]
  rfl

end DirectoryFragments

/-- Where fragments come from. -/
inductive FragmentSource
  | memory (fragments : MemoryFragments)
  | directory (fragments : DirectoryFragments)
  deriving Inhabited

namespace FragmentSource

/-- The packages, sorted. -/
def packages : FragmentSource → Except Fault (List String)
  | memory fragments => .ok fragments.packages
  | directory fragments => fragments.packages

/-- The fragments of a package in order of precedence. -/
def ofPackage : FragmentSource → String → Except Fault (List Tree)
  | memory fragments, package => fragments.ofPackage package
  | directory fragments, package => fragments.ofPackage package

end FragmentSource

end ComponentAtlas
