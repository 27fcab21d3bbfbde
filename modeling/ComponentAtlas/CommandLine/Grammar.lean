import ComponentAtlas.Keyed
import ComponentAtlas.Report

/-!
# Argument grammar

How a list of arguments splits into options, words and a command. Options are written long, `--name` or
`--name=value`, or as letters, `-vf yaml` or `-fyaml`. An option that expects a value takes the next
argument, which must not look like an option itself. A double dash makes all later arguments words.

An option whose value came as an argument of its own is settled when the next option, the next word or the
end of its level is reached. A command ends no option, so a request for help behind the command is
answered even if an option before it has no valid value.
-/

namespace ComponentAtlas

/-- What an option says. -/
inductive Choice
  | help
  | version
  | verbose
  | pretty
  | format (format : ReportFormat)
  | fragments (path : String)
  | config (path : String)
  | package (name : String)
  | all
  | paths
  | resolve
  | depth (levels : Nat)
  deriving DecidableEq, Inhabited

/-- What an option expects. -/
inductive OptionMeaning
  /-- Nothing: to give it is to choose. -/
  | flag (choice : Choice)
  /-- A value, which some texts are not. -/
  | value (read : String → Option Choice)

/-- An option. -/
structure OptionRule where
  name : String
  letter : Option Char := none
  meaning : OptionMeaning

/-- Why arguments are refused. -/
inductive UsageFault
  | unknownOption (written : String)
  | unexpectedValue (option : String)
  | missingValue (option : String)
  | invalidValue (option value : String)
  | repeatedOption (option : String)
  | unexpectedWord (word : String)
  | missingCommand
  | missingWord (command : String)
  /-- Two things that exclude each other. -/
  | conflict (option word : String)
  /-- An option without another one that it needs. -/
  | missingOption (option needed : String)
  deriving DecidableEq, Inhabited

/-- The wording of a usage fault. -/
def UsageFault.message : UsageFault → String
  | unknownOption written => "unexpected option '" ++ written ++ "'"
  | unexpectedValue option => "option '--" ++ option ++ "' takes no value"
  | missingValue option => "option '--" ++ option ++ "' needs a value"
  | invalidValue option value => "invalid value '" ++ value ++ "' for '--" ++ option ++ "'"
  | repeatedOption option => "option '--" ++ option ++ "' is given more than once"
  | unexpectedWord word => "unexpected argument '" ++ word ++ "'"
  | missingCommand => "a command is required"
  | missingWord command => "command '" ++ command ++ "' needs a name"
  | conflict option word => "option '--" ++ option ++ "' excludes '" ++ word ++ "'"
  | missingOption option needed => "option '--" ++ option ++ "' needs '--" ++ needed ++ "'"

/-- Why reading arguments ends early. -/
inductive Stop
  | help
  | version
  | refused (fault : UsageFault)
  deriving DecidableEq, Inhabited

/-- An option that is not settled, and its value if that has been read. -/
structure PendingOption where
  rule : OptionRule
  value : Option String := none

/-- What has been read at a level. -/
structure Reading where
  /-- What options say, under their names. -/
  choices : Keyed Choice := []
  words : List String := []
  pending : Option PendingOption := none
  /-- Whether all that follows are words. -/
  literal : Bool := false

namespace Reading

/-- Whether the next argument must be the value of an option. -/
def awaitsValue (reading : Reading) : Bool :=
  match reading.pending with
  | some ⟨_, none⟩ => true
  | _ => false

/-- Takes a choice, unless its option has been given already. -/
def choose (reading : Reading) (rule : OptionRule) (choice : Choice) : Except Stop Reading :=
  match choice with
  | .help => .error .help
  | .version => .error .version
  | choice =>
    if reading.choices.has rule.name then .error (.refused (.repeatedOption rule.name))
    else .ok { reading with choices := reading.choices.insert rule.name choice }

/-- Takes the value of an option. -/
def assign (reading : Reading) (rule : OptionRule) (value : String) : Except Stop Reading :=
  match rule.meaning with
  | .flag _ => .error (.refused (.unexpectedValue rule.name))
  | .value read =>
    match read value with
    | some choice => reading.choose rule choice
    | none => .error (.refused (.invalidValue rule.name value))

/-- Settles the pending option. -/
def settle (reading : Reading) : Except Stop Reading :=
  match reading.pending with
  | none => .ok reading
  | some ⟨rule, none⟩ => .error (.refused (.missingValue rule.name))
  | some ⟨rule, some value⟩ => assign { reading with pending := none } rule value

/-- Takes an option that stands without a value. -/
def option (reading : Reading) (rule : OptionRule) : Except Stop Reading := do
  let reading ← reading.settle
  match rule.meaning with
  | .flag choice => reading.choose rule choice
  | .value _ => return { reading with pending := some { rule } }

/-- Takes an option with a value attached to it. -/
def optionWithValue (reading : Reading) (rule : OptionRule) (value : String) :
    Except Stop Reading := do
  let reading ← reading.settle
  reading.assign rule value

end Reading

/-- What a level of the command line admits. -/
structure Grammar (α : Type) where
  options : List OptionRule
  /-- How many words there may be, if not any number. -/
  wordLimit : Option Nat := some 0
  /-- The words that lead to another level. -/
  commands : Keyed α := []

/-- A name and what follows the first equals sign. -/
def splitAtEquals (written : List Char) : String × Option String :=
  let value := match written.dropWhile (· ≠ '=') with
    | [] => none
    | _ :: rest => some (String.ofList rest)
  (String.ofList (written.takeWhile (· ≠ '=')), value)

namespace Grammar

variable {α : Type} (grammar : Grammar α)

/-- Takes a word. -/
def word (reading : Reading) (word : String) : Except Stop Reading := do
  let full := match grammar.wordLimit with
    | some limit => decide (limit ≤ reading.words.length)
    | none => false
  if full then throw (.refused (.unexpectedWord word))
  let reading ← reading.settle
  return { reading with words := reading.words ++ [word] }

/-- Takes a long option. -/
def long (reading : Reading) (written : List Char) : Except Stop Reading :=
  let (name, value) := splitAtEquals written
  match grammar.options.find? fun rule => rule.name = name with
  | none => .error (.refused (.unknownOption ("--" ++ name)))
  | some rule =>
    match value with
    | none => reading.option rule
    | some value => reading.optionWithValue rule value

/-- Takes letters of options. What follows the letter of an option that expects a value is its value,
and an equals sign may stand between the two. -/
def letters (reading : Reading) : List Char → Except Stop Reading
  | [] => .ok reading
  | letter :: rest =>
    match grammar.options.find? fun rule => rule.letter = some letter with
    | none => .error (.refused (.unknownOption ("-" ++ letter.toString)))
    | some rule =>
      match rule.meaning, rest with
      | .flag _, rest => do letters (← reading.option rule) rest
      | .value _, [] => reading.option rule
      | .value _, '=' :: value => reading.optionWithValue rule (String.ofList value)
      | .value _, value => reading.optionWithValue rule (String.ofList value)

/-- Takes an argument that is no command. -/
def argument (reading : Reading) (written : String) : Except Stop Reading :=
  if reading.literal then grammar.word reading written
  else
    match written.toList with
    | ['-', '-'] => .ok { reading with literal := true }
    | '-' :: '-' :: name => grammar.long reading name
    | '-' :: letter :: letters => grammar.letters reading (letter :: letters)
    | _ =>
      match reading.pending with
      | some ⟨rule, none⟩ => .ok { reading with pending := some ⟨rule, some written⟩ }
      | _ => grammar.word reading written

/-- The command that an argument is, where it may be one. -/
def command? (reading : Reading) (written : String) : Option α :=
  if reading.literal || reading.awaitsValue then none else grammar.commands.find? written

/-- Reads arguments up to a command; what follows the command is returned with it. -/
def read (reading : Reading) : List String → Except Stop (Reading × Option (α × List String))
  | [] => .ok (reading, none)
  | written :: rest =>
    match grammar.command? reading written with
    | some command => .ok (reading, some (command, rest))
    | none => do read (← grammar.argument reading written) rest

end Grammar

end ComponentAtlas
