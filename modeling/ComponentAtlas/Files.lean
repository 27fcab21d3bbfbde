import ComponentAtlas.Fault
import ComponentAtlas.Keyed

/-!
# Files

A file system as a value: directories with files, directories and links in them, in the order in which
they are listed. Paths are looked up as they are written, one step after the other, and links are
followed up to a limit.
-/

namespace ComponentAtlas

/-- What a name in a directory stands for. -/
inductive FileEntry
  | file (content : ByteArray)
  | directory (entries : List (String × FileEntry))
  | link (target : String)
  deriving Inhabited

/-- A directory: names and what they stand for. -/
abbrev Directory := Keyed FileEntry

/-- The names that lead from the root to a directory or a file, without links. -/
abbrev Location := List String

/-- A file system, and the directory in which relative paths start. -/
structure FileSystem where
  root : Directory := []
  workingDirectory : Location := []
  deriving Inhabited

/-- The separator of paths. -/
def slash : String := "/"

/-- A path and a name below it. -/
def joinPath (base name : String) : String :=
  if name.startsWith slash || base.isEmpty then name
  else if base.endsWith slash then base ++ name
  else base ++ slash ++ name

/-- The pieces of a text between the occurrences of a character. -/
def piecesAt (separator : Char) (text : String) : List String :=
  (text.toList.splitOn separator).map String.ofList

/-- The steps of a path. -/
def pathSteps (path : String) : List String :=
  piecesAt '/' path

/-- The extension of the last name of a path: what follows its last dot, unless that is its first
character. -/
def extension? (path : String) : Option String :=
  let names := (pathSteps path).filter fun name => name ≠ "" ∧ name ≠ "."
  match names.getLast? with
  | none => none
  | some name =>
    if name = ".." then none
    else match (piecesAt '.' name).reverse with
      | last :: first :: others => if others.isEmpty && first.isEmpty then none else some last
      | _ => none

namespace FileSystem

/-- What stands at a location below a directory. -/
def entryBelow? (entries : Directory) : Location → Option FileEntry
  | [] => some (.directory entries)
  | [name] => entries.find? name
  | name :: rest =>
    match entries.find? name with
    | some (.directory inner) => entryBelow? inner rest
    | _ => none

/-- What stands at a location. -/
def entryAt? (files : FileSystem) (location : Location) : Option FileEntry :=
  entryBelow? files.root location

/-- Where the steps of a path start. -/
def start (current : Location) (path : String) : Location :=
  if path.startsWith slash then [] else current

/-- Follows steps from a location, through at most so many links. -/
def walk (files : FileSystem) (links : Nat) (location : Location) (steps : List String) :
    Except FileFault (Location × FileEntry) :=
  match files.entryAt? location, steps with
  | none, _ => .error .notFound
  | some entry, [] => .ok (location, entry)
  | some (.directory entries), step :: rest =>
    if step = "" ∨ step = "." then walk files links location rest
    else if step = ".." then walk files links location.dropLast rest
    else
      match Keyed.find? entries step with
      | none => .error .notFound
      | some (.link target) =>
        match links with
        | 0 => .error .tooManyLinks
        | links + 1 => walk files links (start location target) (pathSteps target ++ rest)
      | some _ => walk files links (location ++ [step]) rest
  | some _, _ :: _ => .error .notADirectory
termination_by (links, steps.length)

/-- How many links a path may lead through. -/
def maxLinks : Nat := 40

/-- Where a path leads, and what stands there. -/
def locate (files : FileSystem) (path : String) : Except FileFault (Location × FileEntry) :=
  if path.isEmpty then .error .notFound
  else files.walk maxLinks (start files.workingDirectory path) (pathSteps path)

/-- Whether a path leads to anything. -/
def pathExists (files : FileSystem) (path : String) : Bool :=
  (files.locate path).toBool

/-- Whether a path leads to a directory. -/
def isDirectory (files : FileSystem) (path : String) : Bool :=
  match files.locate path with
  | .ok (_, .directory _) => true
  | _ => false

/-- Whether a path leads to a file. -/
def isFile (files : FileSystem) (path : String) : Bool :=
  match files.locate path with
  | .ok (_, .file _) => true
  | _ => false

/-- The content of a file. -/
def read (files : FileSystem) (path : String) : Except FileFault ByteArray :=
  match files.locate path with
  | .ok (_, .file content) => .ok content
  | .ok (_, .directory _) => .error .isADirectory
  | .ok (_, .link _) => .error .tooManyLinks
  | .error fault => .error fault

/-- The directory that a path leads to, and its location. -/
def list (files : FileSystem) (path : String) : Except FileFault (Location × Directory) :=
  match files.locate path with
  | .ok (location, .directory entries) => .ok (location, entries)
  | .ok _ => .error .notADirectory
  | .error fault => .error fault

/-- Changes the directory at a location; nothing changes where there is none. -/
def changeBelow (change : Directory → Directory) : Location → Directory → Directory
  | [], entries => change entries
  | name :: rest, entries =>
    match entries.find? name with
    | some (.directory inner) => entries.insert name (.directory (changeBelow change rest inner))
    | _ => entries

/-- Changes the directory at a location. -/
def change (files : FileSystem) (location : Location) (change : Directory → Directory) :
    FileSystem :=
  { files with root := changeBelow change location files.root }

/-- Enters a directory, which is made when it is missing. -/
def enter (state : FileSystem × Location) (name : String) : FileSystem × Location :=
  let (files, location) := state
  match files.walk maxLinks location [name] with
  | .ok (found, .directory _) => (files, found)
  | _ => (files.change location (·.insert name (.directory [])), location ++ [name])

/-- Makes the directories of a path. -/
def makeDirectory (files : FileSystem) (path : String) : FileSystem :=
  ((pathSteps path).foldl enter (files, start files.workingDirectory path)).1

/-- Puts an entry at a path, in directories that are made when they are missing. -/
def put (files : FileSystem) (path : String) (entry : FileEntry) : FileSystem :=
  let steps := pathSteps path
  let (files, location) := steps.dropLast.foldl enter (files, start files.workingDirectory path)
  files.change location (·.insert (steps.getLastD "") entry)

/-- Writes a file, through a link where the path leads to one. -/
def write (files : FileSystem) (path : String) (content : ByteArray) : FileSystem :=
  match files.locate path with
  | .ok (location, .file _) =>
    files.change location.dropLast (·.insert (location.getLastD "") (.file content))
  | _ => files.put path (.file content)

/-- Removes what stands at a path; a link is removed itself. -/
def remove (files : FileSystem) (path : String) : FileSystem :=
  let steps := pathSteps path
  match files.walk maxLinks (start files.workingDirectory path) steps.dropLast with
  | .ok (location, _) => files.change location (·.filter fun entry => entry.1 ≠ steps.getLastD "")
  | .error _ => files

end FileSystem

end ComponentAtlas
