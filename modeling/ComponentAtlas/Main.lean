import ComponentAtlas.CommandLine.Run

/-!
# The program

Copies the files at which a run may look into a file system value, runs on it, and prints what the run
leaves behind. All that is decided here is where the real files are.
-/

namespace ComponentAtlas

/-- Where a real path leads once its links are followed. -/
def realPath? (path : String) : IO (Option String) := do
  try return some (← IO.FS.realPath path).toString
  catch _ => return none

/-- The target of a link that leads nowhere: no file has this name. -/
def nowhere : String := "\x00"

/-- Copies of files, and the real paths from which copies have been made. -/
structure Picture where
  files : FileSystem
  copied : List String := []

namespace Picture

/-- Puts an entry at a path. -/
def put (picture : Picture) (path : String) (entry : FileEntry) : Picture :=
  { picture with files := picture.files.put path entry }

/-- Copies what stands at a real path without links, and all that links below it lead to. -/
partial def copy (picture : Picture) (path : String) : IO Picture := do
  if picture.copied.contains path then return picture
  let mut picture := { picture with copied := path :: picture.copied }
  let real ← IO.FS.realPath path
  if !(← real.isDir) then
    try return picture.put path (.file (← IO.FS.readBinFile path))
    catch _ => return picture
  picture := { picture with files := picture.files.makeDirectory path }
  for entry in ← real.readDir do
    let inner := joinPath path entry.fileName
    match (← entry.path.symlinkMetadata).type with
    | .dir | .file => picture ← picture.copy inner
    | .symlink =>
      match ← realPath? inner with
      | none => picture := picture.put inner (.link nowhere)
      | some target => picture ← (picture.put inner (.link target)).copy target
    | .other => continue
  return picture

/-- Copies what a path leads to. -/
def copyPlace (picture : Picture) (path : String) : IO Picture := do
  match ← realPath? path with
  | none => return picture
  | some target =>
    let picture ← picture.copy target
    return if picture.files.pathExists path then picture else picture.put path (.link target)

end Picture

/-- An environment with copies of the files at which an invocation looks. Settings are copied first, since
they may name the directory of the fragments. -/
def Environment.withFiles (environment : Environment) (invocation : Invocation) :
    IO Environment := do
  let copyAll (picture : Picture) : IO Picture :=
    (invocation.places { environment with files := picture.files }).foldlM Picture.copyPlace picture
  let picture ← copyAll (← copyAll { files := environment.files })
  return { environment with files := picture.files }

/-- The environment of a run before any file has been looked at. -/
def Environment.initial : IO Environment := do
  let working := (← IO.FS.realPath ".").toString
  let files : FileSystem :=
    { workingDirectory := (pathSteps working).filter (· ≠ "") }
  let userSettings := userSettingsPath (← IO.getEnv "XDG_CONFIG_HOME") (← IO.getEnv "HOME")
  let terminal := Terminal.ofVariables (← IO.getEnv "CLICOLOR_FORCE") (← IO.getEnv "NO_COLOR")
    (← IO.getEnv "CLICOLOR") (← (← IO.getStdout).isTty)
  return { files := files.makeDirectory working, userSettings, terminal }

/-- Runs the program. -/
def runProgram (arguments : List String) : IO UInt32 := do
  let initial ← Environment.initial
  let environment ← match Invocation.ofArguments arguments with
    | .error _ => pure initial
    | .ok invocation =>
      let environment ← initial.withFiles invocation
      if invocation.verbose then
        for place in invocation.places environment do
          IO.eprintln ("Reading " ++ place)
      pure environment
  let outcome := environment.run arguments
  IO.print outcome.output
  IO.eprint outcome.errors
  return outcome.status.toUInt32

end ComponentAtlas

/-- The entry point of the program. -/
def main (arguments : List String) : IO UInt32 :=
  ComponentAtlas.runProgram arguments
