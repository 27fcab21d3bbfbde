import ComponentAtlas.Regex.Reading

/-!
# Bracketed classes

The sets between brackets: characters, ranges, named sets and further brackets, joined by union, and
by intersection, difference and symmetric difference, which are read from left to right.
-/

namespace ComponentAtlas.Regex

/-- A set as it was written: how deep its parts nest, and about how many states it needs. -/
structure ClassPart where
  set : CharSet
  depth : Nat := 0
  states : Nat := 1

/-- The operators between sets. -/
inductive ClassOperator
  | inter
  | difference
  | symmetricDifference
  deriving DecidableEq

/-- What has been read of a class: the operator to apply with its left side, and the parts since,
the last one first. -/
structure OpenClass where
  left : Option (ClassPart × ClassOperator) := none
  parts : List ClassPart := []

namespace OpenClass

/-- Adds a part. -/
def push (state : OpenClass) (part : ClassPart) : OpenClass :=
  { state with parts := part :: state.parts }

/-- The union of the parts since the last operator. -/
def joined (state : OpenClass) : ClassPart :=
  match state.parts with
  | [] => { set := fun _ => false }
  | [part] => part
  | parts =>
    { set := fun c => parts.any fun part => part.set c
      depth := 1 + (parts.map ClassPart.depth).foldl max 0
      states := (parts.map ClassPart.states).foldl (· + ·) 0 }

/-- The set of all that has been read. -/
def closed (flags : Flags) (state : OpenClass) : ClassPart :=
  match state.left with
  | none => state.joined
  | some (left, operator) =>
    let right := state.joined
    let first := flags.fold left.set
    let second := flags.fold right.set
    { set := match operator with
        | .inter => first.inter second
        | .difference => first.difference second
        | .symmetricDifference => first.symmetricDifference second
      depth := 1 + max left.depth right.depth
      states := left.states + right.states }

/-- Starts the right side of an operator. -/
def operate (flags : Flags) (state : OpenClass) (operator : ClassOperator) : OpenClass :=
  { left := some (state.closed flags, operator) }

end OpenClass

/-- A character of a class; without Unicode only ASCII has a place in one. -/
def classChar? (flags : Flags) (c : Char) : Option Char :=
  if flags.unicode ∨ c.toNat < 128 then some c else none

/-- The characters from one to another as a part. -/
def rangePart (low high : Char) : ClassPart :=
  { set := CharSet.range low high, states := if high.toNat < 128 then 1 else 4 }

/-- What an escape or a plain character stands for. -/
def classItem? (flags : Flags) : List Char → Option (Escape × List Char)
  | [] => none
  | '\\' :: rest => escape? flags rest
  | c :: rest => some (.char c, rest)

/-- The character that follows, as the test for a range sees it. -/
def peek (flags : Flags) (rest : List Char) : Option Char :=
  if !flags.verbose then rest.head?
  else match rest.dropWhile Unicode.isWhiteSpace with
    | '#' :: comment => (comment.dropWhile Unicode.isWhiteSpace).head?
    | left => left.head?

/-- A character, a range or a named set. -/
def classRange? (flags : Flags) (rest : List Char) : Option (ClassPart × List Char) := do
  let (first, rest) ← classItem? flags rest
  let rest := flags.skip rest
  match first, rest with
  | _, [] => none
  | .look _, _ => none
  | .set set states, '-' :: after =>
    if peek flags after = some ']' ∨ peek flags after = some '-' then
      return ({ set, states }, rest)
    else none
  | .set set states, _ => return ({ set, states }, rest)
  | .char c, '-' :: after =>
    let low ← classChar? flags c
    if peek flags after = some ']' ∨ peek flags after = some '-' then
      return (rangePart low low, rest)
    else
      match ← classItem? flags (flags.skip after) with
      | (.char high, rest) =>
        let high ← classChar? flags high
        if low ≤ high then return (rangePart low high, rest) else none
      | _ => none
  | .char c, _ =>
    let c ← classChar? flags c
    return (rangePart c c, rest)

/-- An ASCII class such as `[:alpha:]`, after its first bracket. Anything else is left to be read
as a nested class; the inner option tells the two apart. -/
def asciiPart? (flags : Flags) (rest : List Char) : Option (Option (ClassPart × List Char)) :=
  match rest with
  | ':' :: rest =>
    let (negated, rest) : Bool × List Char := match rest with
      | '^' :: inner => (true, inner)
      | _ => (false, rest)
    match asciiClass? (String.ofList (rest.takeWhile (· ≠ ':'))), rest.dropWhile (· ≠ ':') with
    | some set, ':' :: ']' :: left =>
      (flags.complement? negated (flags.fold set)).map fun set =>
        some ({ set, states := if negated then anyCharStates else 1 }, left)
    | _, _ => some none
  | _ => some none

/-- Hyphens at the front of a class, which stand for themselves. -/
def leadingHyphens (flags : Flags) : (fuel : Nat) → OpenClass → List Char → OpenClass × List Char
  | 0, state, rest => (state, rest)
  | fuel + 1, state, rest =>
    match rest with
    | '-' :: tail => leadingHyphens flags fuel (state.push (rangePart '-' '-')) (flags.skip tail)
    | _ => (state, rest)

/-- The front of a class, after its bracket: whether it is negated, and the hyphens and the closing
bracket that stand for themselves there. -/
def openClass (flags : Flags) (rest : List Char) : Bool × OpenClass × List Char :=
  let (negated, rest) : Bool × List Char := match flags.skip rest with
    | '^' :: inner => (true, flags.skip inner)
    | rest => (false, rest)
  let (state, rest) := leadingHyphens flags rest.length {} rest
  match state.parts, rest with
  | [], ']' :: inner => (negated, state.push (rangePart ']' ']'), flags.skip inner)
  | _, _ => (negated, state, rest)

/-- The rest of a class, up to and with its closing bracket. -/
def classBody? (flags : Flags) : (fuel : Nat) → (negated : Bool) → OpenClass → List Char →
    Option (ClassPart × List Char)
  | 0, _, _, _ => none
  | fuel + 1, negated, state, rest =>
    match flags.skip rest with
    | [] => none
    | ']' :: rest =>
      let part := state.closed flags
      (flags.complement? negated (flags.fold part.set)).map fun set =>
        ({ set, depth := 1 + part.depth,
           states := if negated then part.states + anyCharStates else part.states }, rest)
    | '[' :: rest =>
      match asciiPart? flags rest with
      | none => none
      | some (some (part, rest)) => classBody? flags fuel negated (state.push part) rest
      | some none =>
        let (innerNegated, inner, rest) := openClass flags rest
        match classBody? flags fuel innerNegated inner rest with
        | some (part, rest) => classBody? flags fuel negated (state.push part) rest
        | none => none
    | '&' :: '&' :: rest => classBody? flags fuel negated (state.operate flags .inter) rest
    | '-' :: '-' :: rest => classBody? flags fuel negated (state.operate flags .difference) rest
    | '~' :: '~' :: rest =>
      classBody? flags fuel negated (state.operate flags .symmetricDifference) rest
    | rest =>
      match classRange? flags rest with
      | some (part, rest) => classBody? flags fuel negated (state.push part) rest
      | none => none

/-- A class, after its opening bracket. -/
def class? (flags : Flags) (rest : List Char) : Option (ClassPart × List Char) :=
  let (negated, state, rest) := openClass flags rest
  classBody? flags (rest.length + 1) negated state rest

end ComponentAtlas.Regex
