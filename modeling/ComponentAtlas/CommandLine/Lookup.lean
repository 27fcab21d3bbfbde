import ComponentAtlas.Codec.Settings
import ComponentAtlas.DataFile

/-!
# Settings and fragments of a run

Where a run finds its settings and its fragments, and why a run fails. Settings come from the file that
the run names, else from the file of the user, else they are the defaults. The fragments directory that
the run names goes before the one in the settings.
-/

namespace ComponentAtlas

/-- Why a run fails. -/
inductive RunFault
  | missingSettings (path : String)
  | brokenSettings (path : String) (fault : Fault)
  | noFragments
  | missingFragments (path : String)
  | unlistedPackages (fault : Fault)
  | unrendered (name : String) (fault : Fault)
  | nothingToRender
  | query (fault : Fault)
  deriving DecidableEq, Inhabited

namespace RunFault

/-- The wording of a failure, followed by that of its causes. -/
def chain : RunFault → List String
  | missingSettings path => ["Settings file does not exist: " ++ path]
  | brokenSettings path fault => ("Failed to load settings from " ++ path) :: fault.chain
  | noFragments => ["No fragments directory: pass --fragments or set fragmentsPath"]
  | missingFragments path => ["Fragments directory does not exist: " ++ path]
  | unlistedPackages fault => "Failed to list packages" :: fault.chain
  | unrendered name fault => ("Failed to render " ++ name) :: fault.chain
  | nothingToRender => ["Pass a prototype name or --paths"]
  | query fault => fault.chain

/-- A failure and its causes in one line. -/
def message (fault : RunFault) : String :=
  ": ".intercalate fault.chain

end RunFault

namespace FileSystem

/-- The settings in a file. -/
def loadSettings (files : FileSystem) (path : String) : Except RunFault Settings :=
  (files.readData Document.settings? path).mapError (.brokenSettings path)

/-- The settings of a run. A file that the run names must exist; the file of the user need not. -/
def settings (files : FileSystem) (named userFile : Option String) : Except RunFault Settings :=
  match named with
  | some path =>
    if files.pathExists path then files.loadSettings path else .error (.missingSettings path)
  | none =>
    match userFile.filter files.isFile with
    | some path => files.loadSettings path
    | none => .ok {}

/-- The fragments directory of a run. -/
def fragmentsRoot (files : FileSystem) (named : Option String) (settings : Settings) :
    Except RunFault String :=
  match named <|> settings.fragmentsPath with
  | none => .error .noFragments
  | some path => if files.pathExists path then .ok path else .error (.missingFragments path)

end FileSystem

end ComponentAtlas
