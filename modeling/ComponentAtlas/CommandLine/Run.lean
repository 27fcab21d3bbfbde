import ComponentAtlas.CommandLine.Answer

/-!
# Runs

A run of the program as a function: from the files that it may read and its arguments to what it prints and
the status that it ends with.
-/

namespace ComponentAtlas

/-- The name of the program. -/
def programName : String := "fusion-lens"

/-- The version of the program. -/
def programVersion : String := "0.3.0"

/-- The settings file of a user, given the directory for configuration and the home directory. The
former counts only where it is an absolute path. -/
def userSettingsPath (configuration home : Option String) : Option String :=
  let directory := (configuration.filter (·.startsWith slash)) <|>
    (home.filter (· ≠ "")).map (joinPath · ".config")
  directory.map (joinPath · (joinPath programName "settings.yaml"))

/-- What a run depends on besides its arguments. -/
structure Environment where
  files : FileSystem := {}
  /-- The settings file of the user, which need not exist. -/
  userSettings : Option String := none
  terminal : Terminal := {}

/-- What a run leaves behind. -/
structure Outcome where
  status : Nat := 0
  output : String := ""
  errors : String := ""
  deriving DecidableEq, Inhabited

/-- The status of a run that fails. -/
def failureStatus : Nat := 1

/-- The status of a run whose arguments are refused. -/
def usageStatus : Nat := 2

/-- How the program is used. -/
def usageText : String :=
  linesText <| ("Usage: " ++ programName ++ " [OPTIONS] <COMMAND>") :: "" :: "Commands:" ::
    (mainGrammar.commands.keys.map ("  " ++ ·)) ++ ["", "Options:"] ++
    mainGrammar.options.map fun rule => "  --" ++ rule.name

/-- A message behind a sign, both in one style. -/
def noticeLine (terminal : Terminal) (style : Style) (sign message : String) : String :=
  terminal.paint style sign ++ " " ++ terminal.paint style message

/-- What a run says about a failure. -/
def failureOutcome (terminal : Terminal) (fault : RunFault) : Outcome :=
  { status := failureStatus, errors := linesText [noticeLine terminal .red "❌" fault.message] }

/-- What a run leaves behind whose arguments ask for no command. -/
def Stop.outcome : Stop → Outcome
  | .help => { output := usageText }
  | .version => { output := linesText [programName ++ " " ++ programVersion] }
  | .refused fault =>
    { status := usageStatus, errors := linesText ["error: " ++ fault.message, ""] ++ usageText }

/-- What the check of settings shows: data formats list the warnings, and the text format reports them
apart from the output. -/
def validation (terminal : Terminal) (printer : Printer) (settings : Settings) : Outcome :=
  let warnings := settings.warnings.map Warning.message
  if printer.format.isStructured then { output := printer.object (.texts warnings) }
  else if warnings.isEmpty then
    { errors := linesText [noticeLine terminal .green "✅" "Settings are valid"] }
  else { errors := linesText (warnings.map (noticeLine terminal .yellow "⚠️")) }

namespace Invocation

/-- The outcome of a command. -/
def outcome (invocation : Invocation) (environment : Environment) : Except RunFault Outcome := do
  let settings ← environment.files.settings invocation.config environment.userSettings
  match invocation.command with
  | .validate => return validation environment.terminal invocation.printer settings
  | .packages =>
    let inspector ← inspector settings
    let packages ← inspector.packages.mapError .unlistedPackages
    return { output := invocation.printer.print (packagesReport packages) }
  | .query query =>
    let inspector ← inspector settings
    let package ← queried (inspector.resolvePackage invocation.package)
    let report ← inspector.answer environment.terminal package query
    return { output := invocation.printer.print report }
where
  /-- Queries on the fragments of this invocation. -/
  inspector (settings : Settings) : Except RunFault Inspector := do
    let root ← environment.files.fragmentsRoot invocation.fragments settings
    return { source := .directory { files := environment.files, root }, settings }

end Invocation

/-- The paths at which an invocation looks for files, as far as the known files tell: the fragments
directory may stand in the settings. -/
def Invocation.places (invocation : Invocation) (environment : Environment) : List String :=
  let settingsFile := invocation.config <|> environment.userSettings
  let root := match environment.files.settings invocation.config environment.userSettings with
    | .ok settings => invocation.fragments <|> settings.fragmentsPath
    | .error _ => none
  settingsFile.toList ++ root.toList

/-- A run with the given arguments. -/
def Environment.run (environment : Environment) (arguments : List String) : Outcome :=
  match Invocation.ofArguments arguments with
  | .error stop => stop.outcome
  | .ok invocation =>
    match invocation.outcome environment with
    | .ok outcome => outcome
    | .error fault => failureOutcome environment.terminal fault

end ComponentAtlas
