import ComponentAtlas.CommandLine.Run
import ComponentAtlas.Proofs.KeyedLists

/-!
# Reading invocations

Where a run looks may be said before the command, by options with their values attached to them.
Each of them adds its choice to what has been read, and the command with its own arguments is read
as if it stood alone.
-/

namespace ComponentAtlas

/-- An option with its value attached to it. -/
def attached (option value : String) : String :=
  "--" ++ option ++ "=" ++ value

/-- An attached option is written as two dashes, its name, an equals sign and its value. -/
theorem toList_attached (option value : String) :
    (attached option value).toList = '-' :: '-' :: (option.toList ++ '=' :: value.toList) := by
  simp [attached]

/-- An option is split at its first equals sign, which is not part of its name. -/
theorem splitAtEquals_append {name : String} (h : '=' ∉ name.toList) (value : List Char) :
    splitAtEquals (name.toList ++ '=' :: value) = (name, some (String.ofList value)) := by
  have hname : ∀ c ∈ name.toList, decide (c ≠ '=') = true := by
    intro c hc
    exact decide_eq_true fun heq => h (heq ▸ hc)
  rw [splitAtEquals, List.dropWhile_append_of_pos hname, List.takeWhile_append_of_pos hname]
  simp

/-- Any text but the empty one is read as a path. -/
theorem readPath?_eq_some {path : String} (h : path ≠ "") : readPath? path = some path := by
  simp [readPath?, h]

namespace Reading

variable {reading : Reading} {rule : OptionRule}

/-- A choice that ends nothing is added behind those that have been made. -/
theorem choose_of_not_mem {choice : Choice} (hhelp : choice ≠ .help) (hversion : choice ≠ .version)
    (hnew : rule.name ∉ reading.choices.keys) : reading.choose rule choice =
      .ok { reading with choices := reading.choices ++ [(rule.name, choice)] } := by
  have hhas : reading.choices.has rule.name = false := by
    rw [Keyed.has, Keyed.find?_eq_none.mpr hnew]
    rfl
  rw [← Keyed.insert_of_not_mem choice hnew]
  cases choice with
  | help => exact absurd rfl hhelp
  | version => exact absurd rfl hversion
  | _ => simp only [choose, hhas, Bool.false_eq_true, if_false]

end Reading

namespace Grammar

variable {α : Type} {grammar : Grammar α} {reading : Reading}

/-- A value that is attached to an option is assigned to it. -/
theorem argument_attached (hliteral : reading.literal = false) (hpending : reading.pending = none)
    {option : String} {rule : OptionRule}
    (hrule : (grammar.options.find? fun rule => rule.name = option) = some rule)
    (hplain : '=' ∉ option.toList) (value : String) :
    grammar.argument reading (attached option value) = reading.assign rule value := by
  have hlong : grammar.long reading (option.toList ++ '=' :: value.toList) =
      reading.assign rule value := by
    rw [long, splitAtEquals_append hplain, String.ofList_toList]
    simp only [hrule, Reading.optionWithValue, Reading.settle, hpending]
    rfl
  rw [argument, hliteral, toList_attached, ← hlong]
  cases option.toList <;> rfl

/-- An argument that does not look like an option is a word. -/
theorem argument_word (hliteral : reading.literal = false) (hpending : reading.pending = none)
    {written : String} (h : written.toList.head? ≠ some '-') :
    grammar.argument reading written = grammar.word reading written := by
  rw [argument, hliteral, hpending]
  cases hchars : written.toList with
  | nil => rfl
  | cons c rest =>
    have hc : c ≠ '-' := by
      rw [hchars] at h
      exact fun heq => h (heq ▸ rfl)
    simp [hc]

end Grammar

/-- No command looks like an option. -/
theorem command?_attached (reading : Reading) (option value : String) :
    mainGrammar.command? reading (attached option value) = none := by
  have hcommands : ∀ name ∈ mainGrammar.commands.keys, name.toList.head? ≠ some '-' := by
    decide
  have hnone : mainGrammar.commands.find? (attached option value) = none := by
    refine Keyed.find?_eq_none.mpr fun hmem => hcommands _ hmem ?_
    rw [toList_attached]
    rfl
  rw [Grammar.command?, hnone, ite_self]

/-- An option with an attached value adds its choice, where it is given. -/
theorem mainGrammar_read_optional {reading : Reading} (hliteral : reading.literal = false)
    (hpending : reading.pending = none) {option : String} (hplain : '=' ∉ option.toList)
    (hnew : option ∉ reading.choices.keys) {rule : OptionRule} {read : String → Option Choice}
    (hrule : (mainGrammar.options.find? fun rule => rule.name = option) = some rule)
    (hmeaning : rule.meaning = .value read) {choice : String → Choice}
    (hhelp : ∀ value, choice value ≠ .help) (hversion : ∀ value, choice value ≠ .version)
    {given : Option String}
    (hread : ∀ value, given = some value → read value = some (choice value)) (rest : List String) :
    mainGrammar.read reading ((given.map (attached option)).toList ++ rest) =
      mainGrammar.read { reading with choices := reading.choices ++
        (given.map fun value => (option, choice value)).toList } rest := by
  obtain rfl : rule.name = option := by simpa using List.find?_some hrule
  cases given with
  | none => simp
  | some value =>
    have hargument : mainGrammar.argument reading (attached rule.name value) =
        .ok { reading with choices := reading.choices ++ [(rule.name, choice value)] } := by
      rw [Grammar.argument_attached hliteral hpending hrule hplain, Reading.assign, hmeaning]
      simp only [hread value rfl]
      exact Reading.choose_of_not_mem (hhelp value) (hversion value) hnew
    simp only [Option.map_some, Option.toList_some, List.singleton_append]
    rw [Grammar.read, command?_attached, hargument]
    rfl

/-- Where a run is told to look. -/
structure Places where
  fragments : Option String := none
  config : Option String := none
  package : Option String := none

namespace Places

/-- The options that tell where to look, each with its value attached to it. -/
def arguments (places : Places) : List String :=
  (places.fragments.map (attached "fragments")).toList ++
    ((places.config.map (attached "config")).toList ++
      (places.package.map (attached "package")).toList)

/-- What these options say. -/
def choices (places : Places) : Keyed Choice :=
  (places.fragments.map fun path => ("fragments", Choice.fragments path)).toList ++
    (places.config.map fun path => ("config", Choice.config path)).toList ++
      (places.package.map fun name => ("package", Choice.package name)).toList

/-- An invocation that looks at the given places and prints JSON. -/
def invocation (places : Places) (query : Query) : Invocation :=
  { command := .query query, printer := { format := .json }, fragments := places.fragments
    config := places.config, package := places.package }

variable {places : Places}

/-- The options that tell where to look are read one after the other. -/
theorem read_arguments (hfragments : places.fragments ≠ some "") (hconfig : places.config ≠ some "")
    (rest : List String) : mainGrammar.read {} (places.arguments ++ rest) =
      mainGrammar.read { choices := places.choices } rest := by
  have hpath : ∀ {given : Option String}, given ≠ some "" → ∀ (choice : String → Choice) path,
      given = some path → (readPath? path).map choice = some (choice path) := by
    rintro given hgiven choice path rfl
    rw [readPath?_eq_some fun heq => hgiven (heq ▸ rfl), Option.map_some]
  have hconfigNew : "config" ∉ Keyed.keys
      (places.fragments.map fun path => ("fragments", Choice.fragments path)).toList := by
    cases places.fragments <;> simp
  have hpackageNew : "package" ∉ Keyed.keys
      ((places.fragments.map fun path => ("fragments", Choice.fragments path)).toList ++
        (places.config.map fun path => ("config", Choice.config path)).toList) := by
    cases places.fragments <;> cases places.config <;> simp
  rw [arguments, List.append_assoc, List.append_assoc,
    mainGrammar_read_optional rfl rfl (by decide) (by simp) rfl rfl (by simp) (by simp)
      (hpath hfragments .fragments),
    mainGrammar_read_optional rfl rfl (by decide) hconfigNew rfl rfl (by simp) (by simp)
      (hpath hconfig .config),
    mainGrammar_read_optional rfl rfl (by decide) hpackageNew rfl rfl (by simp) (by simp)
      (fun _ _ => rfl)]
  rfl

/-- A command behind the places is read as if it stood alone. -/
theorem ofArguments_eq (hfragments : places.fragments ≠ some "")
    (hconfig : places.config ≠ some "") {command : String} {rule : CommandRule}
    (hcommand : mainGrammar.commands.find? command = some (some rule)) (rest : List String) :
    Invocation.ofArguments (places.arguments ++ command :: rest) =
      Invocation.ofCommand { choices := places.choices } rule rest := by
  have hread : mainGrammar.read { choices := places.choices } (command :: rest) =
      .ok ({ choices := places.choices }, some (some rule, rest)) := by
    have hfind : mainGrammar.command? { choices := places.choices } command = some (some rule) :=
      hcommand
    rw [Grammar.read, hfind]
  rw [Invocation.ofArguments, read_arguments hfragments hconfig, hread]
  rfl

/-- The listing of all prototypes is asked for in JSON. -/
theorem ofArguments_listAll (hfragments : places.fragments ≠ some "")
    (hconfig : places.config ≠ some "") :
    Invocation.ofArguments (places.arguments ++ ["list", "--all", "--format", "json"]) =
      .ok (places.invocation .listAll) := by
  rw [ofArguments_eq hfragments hconfig rfl]
  obtain ⟨_ | _, _ | _, _ | _⟩ := places <;> rfl

/-- The anatomy of a prototype is asked for in JSON by a name that does not look like an option. -/
theorem ofArguments_anatomy (hfragments : places.fragments ≠ some "")
    (hconfig : places.config ≠ some "") {name : String} (hname : name.toList.head? ≠ some '-') :
    Invocation.ofArguments (places.arguments ++ ["anatomy", name, "--format", "json"]) =
      .ok (places.invocation (.anatomy name .own)) := by
  obtain ⟨rule, hrule⟩ : ∃ rule, mainGrammar.commands.find? "anatomy" = some (some rule) := ⟨_, rfl⟩
  rw [ofArguments_eq hfragments hconfig hrule]
  cases hrule
  rw [Invocation.ofCommand, Grammar.read]
  have hnone (grammar : Grammar Empty) (h : grammar.commands = []) :
      grammar.command? {} name = none := by
    simp [Grammar.command?, h]
  rw [hnone _ rfl, Grammar.argument_word rfl rfl hname]
  obtain ⟨_ | _, _ | _, _ | _⟩ := places <;> rfl

end Places

end ComponentAtlas
