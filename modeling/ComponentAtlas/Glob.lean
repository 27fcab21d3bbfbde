import ComponentAtlas.Fault
import ComponentAtlas.Regex

/-!
# Globs

Patterns for whole names: a question mark stands for any character, a star for any number of them, and
brackets for one of a set. Two stars are a path component of their own and stand for any number of
components. Letters match in their own case, and no character is special to a star.
-/

namespace ComponentAtlas

/-- A part of a glob. -/
inductive GlobToken
  | char (c : Char)
  | anyChar
  | anySequence
  /-- Any number of path components. -/
  | anyPath
  /-- A character within one of the ranges. -/
  | within (ranges : List (Char × Char))
  /-- A character outside all of the ranges. -/
  | except (ranges : List (Char × Char))
  deriving DecidableEq, Inhabited

/-- A glob. -/
structure Glob where
  tokens : List GlobToken
  deriving DecidableEq, Inhabited

/-- Whether a character lies in one of the ranges. -/
def inCharRanges (ranges : List (Char × Char)) (c : Char) : Bool :=
  ranges.any fun range => range.1 ≤ c && c ≤ range.2

namespace GlobToken

/-- Any number of any characters. -/
def anything : Regex :=
  .repeated 0 none (.char fun _ => true)

/-- The regular expression of a part. -/
def regex : GlobToken → Regex
  | char c => .char (· == c)
  | anyChar => .char fun _ => true
  | anySequence => anything
  | anyPath =>
    .either .empty (.concat anything (.either (.char (· == '/')) (.assertion .textEnd)))
  | within ranges => .char (inCharRanges ranges)
  | except ranges => .char fun c => !inCharRanges ranges c

end GlobToken

namespace Glob

/-- The regular expression of a glob. -/
def regex (glob : Glob) : Regex :=
  .concat ((glob.tokens.map GlobToken.regex).foldr .concat .empty) (.assertion .textEnd)

/-- Whether a whole text matches. -/
def isMatch (glob : Glob) (text : String) : Bool :=
  !(glob.regex.advance text.toList.toArray [0]).isEmpty

/-- The ranges between brackets: three characters with a hyphen in the middle are a range. -/
def readRanges : List Char → List (Char × Char)
  | low :: '-' :: high :: rest => (low, high) :: readRanges rest
  | c :: rest => (c, c) :: readRanges rest
  | [] => []

/-- The characters between brackets, of which the first may be a closing bracket, and what is left
after them. -/
def bracketed? : List Char → Option (List Char × List Char)
  | first :: rest =>
    match rest.dropWhile (· ≠ ']') with
    | _ :: left => some (first :: rest.takeWhile (· ≠ ']'), left)
    | [] => none
  | [] => none

/-- Reads the parts of a glob, given the character before them. -/
def parseFrom : (fuel : Nat) → (previous : Option Char) → List Char →
    Except GlobFault (List GlobToken)
  | 0, _, _ => .ok []
  | _ + 1, _, [] => .ok []
  | fuel + 1, previous, c :: rest =>
    match c with
    | '?' => (.anyChar :: ·) <$> parseFrom fuel (some c) rest
    | '*' =>
      let further := rest.takeWhile (· = '*')
      let left := rest.dropWhile (· = '*')
      match further.length with
      | 0 => (.anySequence :: ·) <$> parseFrom fuel (some c) rest
      | 1 =>
        if previous.all (· = '/') then
          match left with
          | [] => .ok [.anyPath]
          | '/' :: left => (.anyPath :: ·) <$> parseFrom fuel (some '/') left
          | _ => .error .recursiveWildcards
        else .error .recursiveWildcards
      | _ => .error .wildcards
    | '[' =>
      match rest with
      | '!' :: rest =>
        match bracketed? rest with
        | some (chars, left) => (.except (readRanges chars) :: ·) <$> parseFrom fuel (some ']') left
        | none => .error .range
      | _ =>
        match bracketed? rest with
        | some (chars, left) => (.within (readRanges chars) :: ·) <$> parseFrom fuel (some ']') left
        | none => .error .range
    | _ => (.char c :: ·) <$> parseFrom fuel (some c) rest

/-- Reads a glob. -/
def parse (pattern : String) : Except GlobFault Glob :=
  Glob.mk <$> parseFrom (pattern.length + 1) none pattern.toList

end Glob

end ComponentAtlas
