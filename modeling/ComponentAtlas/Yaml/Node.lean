import ComponentAtlas.Keyed
import ComponentAtlas.Yaml.Token

/-!
# Nodes of YAML text

The tree that a list of tokens describes. Anchors are numbered, and an alias holds the number that its
anchor had when it was written.
-/

namespace ComponentAtlas.Yaml

/-- What a node says about itself before its content. -/
structure Properties where
  anchor : Option Nat := none
  tag : Option String := none
  deriving DecidableEq, Inhabited

/-- A node. -/
inductive Node
  | alias (anchor : Nat)
  | scalar (properties : Properties) (plain : Bool) (text : String)
  | sequence (properties : Properties) (items : List Node)
  | mapping (properties : Properties) (entries : List (Node × Node))
  deriving Inhabited

/-- The node of a place where nothing is written. -/
def Node.absent (properties : Properties) : Node :=
  .scalar properties true ""

/-- A reader of nodes: the tokens that are left, the starts of tags by handle, and the numbers of the
anchors so far. A number is the count of different names before, so it may be given twice. -/
structure Composer where
  tokens : List Token
  tagStarts : Keyed String := []
  anchors : Keyed Nat := []
  deriving Inhabited

namespace Composer

/-- The next token. -/
def peek? (state : Composer) : Option Token := state.tokens.head?

/-- Whether the next token is one of those given, or there is none. -/
def isAt (state : Composer) (tokens : List Token) : Bool :=
  state.peek?.all tokens.contains

/-- Skips a token. -/
def skip (state : Composer) : Composer := { state with tokens := state.tokens.drop 1 }

/-- Numbers an anchor. -/
def number (state : Composer) (name : String) : Nat × Composer :=
  let number := state.anchors.length
  (number, { state with anchors := state.anchors.insert name number })

/-- The tag that is written. -/
def resolveTag? (state : Composer) (written : WrittenTag) : Option String :=
  if written.handle = "" then some written.suffix
  else (state.tagStarts.find? written.handle).map (· ++ written.suffix)

/-- The anchor and the tag at the front, in either order. -/
def properties? (state : Composer) : Option (Option String × Option String × Composer) :=
  match state.tokens with
  | .anchor name :: .tag written :: rest =>
    (state.resolveTag? written).map fun tag => (some name, some tag, { state with tokens := rest })
  | .tag written :: .anchor name :: rest =>
    (state.resolveTag? written).map fun tag => (some name, some tag, { state with tokens := rest })
  | .anchor name :: rest => some (some name, none, { state with tokens := rest })
  | .tag written :: rest =>
    (state.resolveTag? written).map fun tag => (none, some tag, { state with tokens := rest })
  | _ => some (none, none, state)

end Composer

mutual

/-- Reads a node. In the block style blocks may start, and after a key a sequence that is not
indented. -/
def composeNode? (block indentless : Bool) : (fuel : Nat) → Composer → Option (Node × Composer)
  | 0, _ => none
  | fuel + 1, state =>
    match state.tokens with
    | .alias name :: _ => (state.anchors.find? name).map fun anchor => (.alias anchor, state.skip)
    | _ => do
      let (anchorName, tag, state) ← state.properties?
      let (anchor, state) : Option Nat × Composer := match anchorName with
        | some name =>
          let (number, numbered) := state.number name
          (some number, numbered)
        | none => (none, state)
      let properties : Properties := { anchor, tag }
      match state.tokens with
      | .scalar plain text :: _ => return (.scalar properties plain text, state.skip)
      | .flowSequenceStart :: _ =>
        let (items, state) ← composeFlowItems? true fuel state.skip
        return (.sequence properties items, state)
      | .flowMappingStart :: _ =>
        let (entries, state) ← composeFlowEntries? true fuel state.skip
        return (.mapping properties entries, state)
      | .blockEntry :: _ =>
        if indentless then
          let (items, state) ← composeIndentless? fuel state
          return (.sequence properties items, state)
        else if anchor.isSome ∨ tag.isSome then return (.absent properties, state)
        else none
      | .blockSequenceStart :: _ =>
        if block then
          let (items, state) ← composeItems? fuel state.skip
          return (.sequence properties items, state)
        else if anchor.isSome ∨ tag.isSome then return (.absent properties, state)
        else none
      | .blockMappingStart :: _ =>
        if block then
          let (entries, state) ← composeEntries? fuel state.skip
          return (.mapping properties entries, state)
        else if anchor.isSome ∨ tag.isSome then return (.absent properties, state)
        else none
      | _ => if anchor.isSome ∨ tag.isSome then return (.absent properties, state) else none

/-- Reads a node unless one of the given tokens shows that there is none. -/
def composeOptional? (block indentless : Bool) (stops : List Token) :
    (fuel : Nat) → Composer → Option (Node × Composer)
  | 0, _ => none
  | fuel + 1, state =>
    if state.isAt stops then some (.absent {}, state)
    else composeNode? block indentless fuel state

/-- Reads the items of a block sequence and its end. -/
def composeItems? : (fuel : Nat) → Composer → Option (List Node × Composer)
  | 0, _ => none
  | fuel + 1, state =>
    match state.tokens with
    | .blockEntry :: _ => do
      let (item, state) ← composeOptional? true false [.blockEntry, .blockEnd] fuel state.skip
      let (items, state) ← composeItems? fuel state
      return (item :: items, state)
    | .blockEnd :: _ => some ([], state.skip)
    | _ => none

/-- Reads the items of a block sequence that is not indented. -/
def composeIndentless? : (fuel : Nat) → Composer → Option (List Node × Composer)
  | 0, _ => none
  | fuel + 1, state =>
    match state.tokens with
    | .blockEntry :: _ => do
      let (item, state) ←
        composeOptional? true false [.blockEntry, .key, .value, .blockEnd] fuel state.skip
      let (items, state) ← composeIndentless? fuel state
      return (item :: items, state)
    | _ => some ([], state)

/-- Reads the value of an entry: a node behind a colon, or nothing. -/
def composeValue? (block : Bool) (stops : List Token) :
    (fuel : Nat) → Composer → Option (Node × Composer)
  | 0, _ => none
  | fuel + 1, state =>
    match state.tokens with
    | .value :: _ => composeOptional? block block stops fuel state.skip
    | _ => some (.absent {}, state)

/-- Reads the entries of a block mapping and its end. -/
def composeEntries? : (fuel : Nat) → Composer → Option (List (Node × Node) × Composer)
  | 0, _ => none
  | fuel + 1, state =>
    let stops := [Token.key, .value, .blockEnd]
    match state.tokens with
    | .key :: _ => do
      let (key, state) ← composeOptional? true true stops fuel state.skip
      let (value, state) ← composeValue? true stops fuel state
      let (entries, state) ← composeEntries? fuel state
      return ((key, value) :: entries, state)
    | .blockEnd :: _ => some ([], state.skip)
    | _ => none

/-- Reads the items of a flow sequence and its end. An item that starts with a key is a mapping of one
entry. -/
def composeFlowItems? (first : Bool) : (fuel : Nat) → Composer → Option (List Node × Composer)
  | 0, _ => none
  | fuel + 1, state =>
    let separated : Option Composer := match state.tokens with
      | .flowSequenceEnd :: _ => some state
      | .flowEntry :: _ => if first then some state else some state.skip
      | _ => if first then some state else none
    match separated with
    | none => none
    | some state =>
      match state.tokens with
      | .flowSequenceEnd :: _ => some ([], state.skip)
      | .key :: _ => do
        let stops := [Token.value, .flowEntry, .flowSequenceEnd]
        let state := state.skip
        let (key, state) ←
          if state.isAt stops then some (Node.absent {}, state.skip)
          else composeNode? false false fuel state
        let (value, state) ← composeValue? false [.flowEntry, .flowSequenceEnd] fuel state
        let (items, state) ← composeFlowItems? false fuel state
        return (.mapping {} [(key, value)] :: items, state)
      | _ => do
        let (item, state) ← composeNode? false false fuel state
        let (items, state) ← composeFlowItems? false fuel state
        return (item :: items, state)

/-- Reads the entries of a flow mapping and its end. -/
def composeFlowEntries? (first : Bool) :
    (fuel : Nat) → Composer → Option (List (Node × Node) × Composer)
  | 0, _ => none
  | fuel + 1, state =>
    let separated : Option Composer := match state.tokens with
      | .flowMappingEnd :: _ => some state
      | .flowEntry :: _ => if first then some state else some state.skip
      | _ => if first then some state else none
    match separated with
    | none => none
    | some state =>
      match state.tokens with
      | .flowMappingEnd :: _ => some ([], state.skip)
      | .key :: _ => do
        let (key, state) ←
          composeOptional? false false [.value, .flowEntry, .flowMappingEnd] fuel state.skip
        let (value, state) ← composeValue? false [.flowEntry, .flowMappingEnd] fuel state
        let (entries, state) ← composeFlowEntries? false fuel state
        return ((key, value) :: entries, state)
      | _ => do
        let (key, state) ← composeNode? false false fuel state
        let (entries, state) ← composeFlowEntries? false fuel state
        return ((key, .absent {}) :: entries, state)

end

/-- The directives of a document: at most one version, which must be 1.1 or 1.2, and no handle
twice. -/
def directives? (version : Bool) (starts : Keyed String) :
    List Token → Option (Keyed String × List Token)
  | .directive (.version major minor) :: rest =>
    if version ∨ major ≠ 1 ∨ (minor ≠ 1 ∧ minor ≠ 2) then none else directives? true starts rest
  | .directive (.tag handle start) :: rest =>
    if starts.has handle then none else directives? version (starts ++ [(handle, start)]) rest
  | rest => some (starts, rest)

/-- The handles that every document knows. -/
def coreTagStarts : Keyed String :=
  [("!", "!"), ("!!", "tag:yaml.org,2002:")]

/-- The node of the only document in a list of tokens, `some none` when there is no document. -/
def document? (tokens : List Token) : Option (Option Node) := do
  let (starts, rest) ← directives? false [] tokens
  let explicit := rest.head? = some .documentStart
  if tokens.isEmpty then return none
  else if !explicit ∧ rest.length < tokens.length then none
  else
    let state : Composer :=
      { tokens := if explicit then rest.drop 1 else rest, tagStarts := starts ++ coreTagStarts }
    let fuel := 4 * tokens.length + 8
    let isDirective := state.peek?.any fun token => token matches .directive _
    let (node, state) ←
      if explicit && (isDirective || state.isAt [.documentStart, .documentEnd]) then
        some (Node.absent {}, state)
      else composeNode? true false fuel state
    if state.tokens.all (· == .documentEnd) then return some node else none

end ComponentAtlas.Yaml
