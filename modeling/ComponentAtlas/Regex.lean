import ComponentAtlas.Keyed

/-!
# Regular expressions

A regular expression is matched by computing, from the positions at which a match may start, all
positions at which it may end. This needs no backtracking, ends on every input, and gives assertions
about the characters around a position their plain meaning.
-/

namespace ComponentAtlas

/-- A set of characters. -/
abbrev CharSet := Char → Bool

/-- The side of a word boundary that an assertion asks for. -/
inductive WordEdge
  | boundary
  | noBoundary
  | start
  | «end»
  | startHalf
  | endHalf
  deriving DecidableEq, Inhabited

/-- A condition on a position that consumes nothing. -/
inductive Assertion
  | textStart
  | textEnd
  /-- The start of a line; with the flag a carriage return ends lines too. -/
  | lineStart (crlf : Bool)
  | lineEnd (crlf : Bool)
  /-- An edge of a word made of the given characters. -/
  | word (edge : WordEdge) (wordChars : CharSet)

/-- A regular expression. -/
inductive Regex
  | empty
  | char (set : CharSet)
  | assertion (condition : Assertion)
  | concat (first second : Regex)
  | either (left right : Regex)
  /-- At least so many repetitions, and at most so many more, or any number. -/
  | repeated (least : Nat) (further : Option Nat) (body : Regex)

/-- Whether an edge lies between characters that do or do not belong to words. -/
def WordEdge.holds (edge : WordEdge) (before after : Bool) : Bool :=
  match edge with
  | boundary => before != after
  | noBoundary => before == after
  | start => !before && after
  | «end» => before && !after
  | startHalf => !before
  | endHalf => !after

/-- Whether a condition holds between two characters, absent at the ends of the text. -/
def Assertion.holds (condition : Assertion) (before after : Option Char) : Bool :=
  match condition with
  | textStart => before.isNone
  | textEnd => after.isNone
  | lineStart crlf =>
    before.isNone || before == some '\n' || (crlf && before == some '\r' && after != some '\n')
  | lineEnd false => after.isNone || after == some '\n'
  | lineEnd true =>
    after.isNone || after == some '\r' || (after == some '\n' && before != some '\r')
  | word edge wordChars => edge.holds (before.any wordChars) (after.any wordChars)

/-- The character before a position. -/
def charBefore? (text : Array Char) (position : Nat) : Option Char :=
  if position = 0 then none else text[position - 1]?

namespace Regex

/-- Applies a step a given number of times. -/
def iterateStep (step : List Nat → List Nat) : Nat → List Nat → List Nat
  | 0, positions => positions
  | count + 1, positions => iterateStep step count (step positions)

/-- The positions reached by at most the given number of steps. -/
def closure (step : List Nat → List Nat) : Nat → List Nat → List Nat
  | 0, positions => positions
  | count + 1, positions =>
    let reached := distinct (positions ++ step positions)
    if reached.length = positions.length then positions else closure step count reached

/-- The positions at which a match may end that starts at one of the given positions. Repetitions
beyond the length of the text add nothing: one of them is empty and can be left out or repeated. -/
def advance (text : Array Char) : Regex → List Nat → List Nat
  | .empty, positions => positions
  | .char set, positions =>
    (positions.filter fun position => text[position]?.any set).map (· + 1)
  | .assertion condition, positions =>
    positions.filter fun position => condition.holds (charBefore? text position) text[position]?
  | .concat first second, positions => advance text second (advance text first positions)
  | .either left right, positions =>
    distinct (advance text left positions ++ advance text right positions)
  | .repeated least further body, positions =>
    let bound := text.size + 1
    let required := iterateStep (advance text body) (min least bound) positions
    closure (advance text body) (min (further.getD bound) bound) required

/-- Whether some part of the text matches. -/
def isMatch (regex : Regex) (text : String) : Bool :=
  let chars := text.toList.toArray
  !(regex.advance chars (List.range (chars.size + 1))).isEmpty

end Regex

end ComponentAtlas
