import ComponentAtlas.Fault
import ComponentAtlas.Regex.Class

/-!
# Reading regular expressions

A written regular expression is read from left to right. Groups that are open wait on a stack, and the
flags in force when a group opens are restored when it closes.
-/

namespace ComponentAtlas.Regex

/-- A part of an expression, how deep it nests, and about how many states its automaton has. -/
structure Piece where
  regex : Regex
  depth : Nat := 0
  states : Nat := 1

/-- An item of a sequence. -/
inductive Item
  | piece (content : Piece)
  /-- A change of flags, which matches nothing and cannot be repeated. -/
  | flags

/-- The part that an item stands for. -/
def Item.toPiece : Item → Piece
  | piece content => content
  | flags => { regex := .empty, states := 0 }

/-- The sequence of items. -/
def sequence (items : List Item) : Piece :=
  match items with
  | [] => { regex := .empty }
  | [item] => item.toPiece
  | items =>
    let pieces := items.map Item.toPiece
    { regex := (pieces.map Piece.regex).foldr .concat .empty
      depth := 1 + (pieces.map Piece.depth).foldl max 0
      states := (pieces.map Piece.states).foldl (· + ·) 0 }

/-- The choice between pieces. -/
def choice (first : Piece) (others : List Piece) : Piece :=
  if others.isEmpty then first
  else
    { regex := (others.map Piece.regex).foldl .either first.regex
      depth := 1 + (others.map Piece.depth).foldl max first.depth
      states := 1 + (others.map Piece.states).foldl (· + ·) first.states }

/-- A group that is open: the flags to restore, the branches before the current one, and the items
of the current branch, each list with the last one first. -/
structure Level where
  outer : Flags := {}
  branches : List Piece := []
  items : List Item := []

namespace Level

/-- Adds an item to the current branch. -/
def push (level : Level) (item : Item) : Level :=
  { level with items := item :: level.items }

/-- Starts another branch. -/
def branch (level : Level) : Level :=
  { level with branches := sequence level.items.reverse :: level.branches, items := [] }

/-- The expression of the group. -/
def closed (level : Level) : Piece :=
  match level.branch.branches.reverse with
  | [] => { regex := .empty }
  | first :: others => choice first others

/-- Repeats the last item of the current branch; there must be one. -/
def repeatLast? (level : Level) (least : Nat) (most : Option Nat) : Option Level :=
  match level.items with
  | .piece piece :: items =>
    let repeated : Piece :=
      { regex := .repeated least (most.map (· - least)) piece.regex
        depth := 1 + piece.depth
        states := match most with
          | none => (max least 1) * piece.states + 1
          | some most => least * piece.states + (most - least) * (piece.states + 1) }
    some { level with items := .piece repeated :: items }
  | _ => none

end Level

/-- What an opening parenthesis starts. -/
inductive Opening
  /-- A group with the given flags. -/
  | group (flags : Flags) (name : Option String)
  /-- A change of flags for the rest of the group around. -/
  | change (flags : Flags)

/-- What follows an opening parenthesis. -/
def opening? (flags : Flags) (rest : List Char) : Option (Opening × List Char) :=
  match flags.skip rest with
  | '?' :: '=' :: _ | '?' :: '!' :: _ | '?' :: '<' :: '=' :: _ | '?' :: '<' :: '!' :: _ => none
  | '?' :: 'P' :: '<' :: rest | '?' :: '<' :: rest =>
    (groupName? rest).map fun (name, left) => (.group flags (some name), left)
  | '?' :: rest =>
    match flags? true [] flags rest with
    | some ((flags, _, ':'), left) => some (.group flags none, left)
    | some ((flags, true, _), left) => some (.change flags, left)
    | _ => none
  | rest => some (.group flags none, rest)

/-- The piece of a literal character. -/
def literal (flags : Flags) (c : Char) : Item :=
  .piece { regex := .char (flags.fold (· == c)), states := c.utf8Size }

/-- The piece of the dot, which needs characters rather than bytes. -/
def dot? (flags : Flags) : Option Item :=
  if !flags.unicode then none
  else
    let set : CharSet := fun c =>
      flags.dotAll || (c != '\n' && !(flags.crlf && c == '\r'))
    some (.piece { regex := .char set, states := anyCharStates })

/-- The condition of a circumflex or a dollar sign. -/
def anchor (flags : Flags) (c : Char) : Assertion :=
  if c = '^' then if flags.multiLine then .lineStart flags.crlf else .textStart
  else if flags.multiLine then .lineEnd flags.crlf else .textEnd

/-- A part of a sequence that is neither a group nor an operator. -/
def primitive? (flags : Flags) : List Char → Option (Item × List Char)
  | [] => none
  | '\\' :: rest =>
    (escape? flags rest).map fun (escape, left) =>
      (match escape with
        | .char c => literal flags c
        | .set set states => .piece { regex := .char set, states }
        | .look condition => .piece { regex := .assertion condition }, left)
  | '.' :: rest => (dot? flags).map fun item => (item, rest)
  | '[' :: rest =>
    (class? flags rest).map fun (part, left) =>
      (.piece { regex := .char part.set, depth := part.depth, states := part.states }, left)
  | c :: rest =>
    if c = '^' ∨ c = '$' then some (.piece { regex := .assertion (anchor flags c) }, rest)
    else some (literal flags c, rest)

/-- What is left after the mark of a repetition that prefers fewer rounds. -/
def skipLazyMark : List Char → List Char
  | '?' :: rest => rest
  | rest => rest

/-- Reads an expression to its end. -/
def parseFrom : (fuel : Nat) → Flags → (names : List String) → List Level → Level → List Char →
    Option Piece
  | 0, _, _, _, _, _ => none
  | fuel + 1, flags, names, stack, level, rest =>
    match flags.skip rest with
    | [] => if stack.isEmpty then some level.closed else none
    | '(' :: rest =>
      match opening? flags rest with
      | some (.change changed, rest) => parseFrom fuel changed names stack (level.push .flags) rest
      | some (.group inner none, rest) =>
        parseFrom fuel inner names (level :: stack) { outer := flags } rest
      | some (.group inner (some name), rest) =>
        if names.contains name then none
        else parseFrom fuel inner (name :: names) (level :: stack) { outer := flags } rest
      | none => none
    | ')' :: rest =>
      match stack with
      | [] => none
      | around :: stack =>
        let piece := level.closed
        let group : Piece := { piece with depth := piece.depth + 1, states := piece.states + 2 }
        parseFrom fuel level.outer names stack (around.push (.piece group)) rest
    | '|' :: rest => parseFrom fuel flags names stack level.branch rest
    | '?' :: rest =>
      match level.repeatLast? 0 (some 1) with
      | some level => parseFrom fuel flags names stack level (skipLazyMark rest)
      | none => none
    | '*' :: rest =>
      match level.repeatLast? 0 none with
      | some level => parseFrom fuel flags names stack level (skipLazyMark rest)
      | none => none
    | '+' :: rest =>
      match level.repeatLast? 1 none with
      | some level => parseFrom fuel flags names stack level (skipLazyMark rest)
      | none => none
    | '\x7b' :: rest =>
      match counts? flags rest with
      | some ((least, most), rest) =>
        match level.repeatLast? least most with
        | some level => parseFrom fuel flags names stack level (skipLazyMark (flags.skip rest))
        | none => none
      | none => none
    | rest =>
      match primitive? flags rest with
      | some (item, rest) => parseFrom fuel flags names stack (level.push item) rest
      | none => none

/-- How deep an expression may nest. -/
def maxDepth : Nat := 250

/-- How many bytes an automaton may take. -/
def maxBytes : Nat := 10485760

/-- About how many bytes a state of an automaton takes. -/
def stateBytes : Nat := 32

/-- Reads a regular expression. -/
def parse (pattern : String) : Except PatternFault Regex :=
  let chars := pattern.toList
  match parseFrom (chars.length + 1) {} [] [] {} chars with
  | none => .error .regex
  | some piece =>
    if maxDepth < piece.depth then .error .regex
    else if maxBytes < stateBytes * piece.states then .error (.regexSize maxBytes)
    else .ok piece.regex

end ComponentAtlas.Regex
