import ComponentAtlas.CommandLine.Grammar
import ComponentAtlas.Codec.Settings

/-!
# Invocations

The commands of the program, the options that each of them knows, and what a list of arguments asks for.
Options that every command knows may stand before the command or behind it; behind it they win.
-/

namespace ComponentAtlas

/-- What is to be rendered. -/
inductive RenderTarget
  | prototype (name : String)
  | paths
  deriving DecidableEq, Inhabited

/-- How far the anatomy of a prototype is followed. -/
inductive AnatomyView
  /-- The prototype's own parts. -/
  | own
  /-- The parts of its parts as well, to a depth that may be given. -/
  | composition (depth : Option Nat)
  deriving DecidableEq, Inhabited

/-- A question about a package. -/
inductive Query
  | list
  | listAll
  | render (target : Option RenderTarget)
  | anatomy (prototype : String) (view : AnatomyView)
  | detail (prototype : String)
  | classify (names : List String)
  | presets
  deriving DecidableEq, Inhabited

/-- What the program does. -/
inductive Command
  | validate
  | packages
  | query (query : Query)
  deriving DecidableEq, Inhabited

/-- What a list of arguments asks for. -/
structure Invocation where
  command : Command
  printer : Printer := {}
  verbose : Bool := false
  fragments : Option String := none
  config : Option String := none
  package : Option String := none
  deriving DecidableEq, Inhabited

/-- A number of 64 bits in decimal digits, with or without a plus sign. -/
def readNumber? (written : String) : Option Nat :=
  let digits := match written.toList with
    | '+' :: rest => rest
    | all => all
  if digits.isEmpty || !digits.all Char.isDigit then none
  else
    let n := digits.foldl (fun n c => 10 * n + (c.toNat - '0'.toNat)) 0
    if n ≤ Document.word64 then some n else none

/-- A path that is not empty. -/
def readPath? (written : String) : Option String :=
  if written.isEmpty then none else some written

/-- The request for help, which every level knows. -/
def helpOption : OptionRule := { name := "help", letter := some 'h', meaning := .flag .help }

/-- The options that every command knows. -/
def commonOptions : List OptionRule :=
  [helpOption,
    { name := "verbose", letter := some 'v', meaning := .flag .verbose },
    { name := "format", letter := some 'f'
      meaning := .value fun written => (ReportFormat.ofName? written).map .format },
    { name := "pretty", meaning := .flag .pretty },
    { name := "fragments", meaning := .value fun written => (readPath? written).map .fragments },
    { name := "config", letter := some 'c'
      meaning := .value fun written => (readPath? written).map .config },
    { name := "package", letter := some 'p', meaning := .value fun written => some (.package written) }]

/-- The option that asks for the version. -/
def versionOption : OptionRule :=
  { name := "version", letter := some 'V', meaning := .flag .version }

/-- A flag of a single command. -/
def ownFlag (name : String) (choice : Choice) : OptionRule :=
  { name, meaning := .flag choice }

/-- The depth of a composition. -/
def depthOption : OptionRule :=
  { name := "depth", meaning := .value fun written => (readNumber? written).map .depth }

namespace Reading

/-- Whether a flag has been given. -/
def has (reading : Reading) (choice : Choice) : Bool :=
  reading.choices.any fun entry => entry.2 = choice

/-- The depth that has been given. -/
def depth? (reading : Reading) : Option Nat :=
  reading.choices.findSome? fun
    | (_, .depth levels) => some levels
    | _ => none

/-- The word that a command needs. -/
def requiredWord (reading : Reading) (command : String) : Except UsageFault String :=
  match reading.words.head? with
  | some word => .ok word
  | none => .error (.missingWord command)

end Reading

/-- A command of the program: its name, its own options, how many words follow, and what they mean. -/
structure CommandRule where
  name : String
  options : List OptionRule := []
  wordLimit : Option Nat := some 0
  command : Reading → Except UsageFault Command

/-- What is to be rendered, where a name and the paths exclude each other. -/
def renderTarget (reading : Reading) : Except UsageFault (Option RenderTarget) :=
  match reading.has .paths, reading.words.head? with
  | true, some name => .error (.conflict "paths" name)
  | true, none => .ok (some .paths)
  | false, name => .ok (name.map .prototype)

/-- How far anatomy is followed; only a composition has a depth. -/
def anatomyView (reading : Reading) : Except UsageFault AnatomyView :=
  match reading.has .resolve, reading.depth? with
  | true, depth => .ok (.composition depth)
  | false, none => .ok .own
  | false, some _ => .error (.missingOption "depth" "resolve")

/-- The commands. -/
def commandRules : List CommandRule :=
  [{ name := "packages", command := fun _ => .ok .packages },
    { name := "list", options := [ownFlag "all" .all]
      command := fun reading => .ok (.query (if reading.has .all then .listAll else .list)) },
    { name := "render", options := [ownFlag "paths" .paths], wordLimit := some 1
      command := fun reading => return .query (.render (← renderTarget reading)) },
    { name := "anatomy", options := [ownFlag "resolve" .resolve, depthOption], wordLimit := some 1
      command := fun reading => do
        let name ← reading.requiredWord "anatomy"
        return .query (.anatomy name (← anatomyView reading)) },
    { name := "detail", wordLimit := some 1
      command := fun reading => return .query (.detail (← reading.requiredWord "detail")) },
    { name := "classify", wordLimit := none
      command := fun reading => do
        let _ ← reading.requiredWord "classify"
        return .query (.classify reading.words) },
    { name := "presets", command := fun _ => .ok (.query .presets) },
    { name := "validate", command := fun _ => .ok .validate }]

/-- The command that shows help. -/
def helpCommand : String := "help"

/-- The first level of arguments. The command that shows help stands for no rule. -/
def mainGrammar : Grammar (Option CommandRule) where
  options := versionOption :: commonOptions
  commands := (commandRules.map fun rule => (rule.name, some rule)) ++ [(helpCommand, none)]

/-- The level of arguments behind a command. -/
def CommandRule.grammar (rule : CommandRule) : Grammar Empty where
  options := commonOptions ++ rule.options
  wordLimit := rule.wordLimit

/-- Help is shown about the program or about one of its commands. -/
def helpStop (words : List String) : Stop :=
  match words with
  | [] => .help
  | name :: rest =>
    if !mainGrammar.commands.has name then .refused (.unexpectedWord name)
    else match rest with
      | [] => .help
      | word :: _ => .refused (.unexpectedWord word)

namespace Invocation

/-- An invocation of a command with choices, the first of a kind counting. -/
def ofChoices (command : Command) (choices : List Choice) : Invocation :=
  { command
    printer :=
      { format := (choices.findSome? fun | .format format => some format | _ => none).getD .text
        pretty := choices.contains .pretty }
    verbose := choices.contains .verbose
    fragments := choices.findSome? fun | .fragments path => some path | _ => none
    config := choices.findSome? fun | .config path => some path | _ => none
    package := choices.findSome? fun | .package name => some name | _ => none }

/-- What a command with the given arguments asks for, after what was read before it. -/
def ofCommand (outer : Reading) (rule : CommandRule) (arguments : List String) :
    Except Stop Invocation := do
  let (inner, _) ← rule.grammar.read {} arguments
  let inner ← inner.settle
  let command ← (rule.command inner).mapError .refused
  let outer ← outer.settle
  return ofChoices command ((inner.choices ++ outer.choices).map Prod.snd)

/-- What arguments ask for. -/
def ofArguments (arguments : List String) : Except Stop Invocation := do
  match ← mainGrammar.read {} arguments with
  | (outer, some (some rule, rest)) => ofCommand outer rule rest
  | (_, some (none, rest)) => throw (helpStop rest)
  | (outer, none) =>
    let _ ← outer.settle
    throw (.refused .missingCommand)

end Invocation

end ComponentAtlas
