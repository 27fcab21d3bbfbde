import ComponentAtlas.Unicode.FoldingTable
import ComponentAtlas.Unicode.Runs

/-!
# Case folding

Two characters are the same without regard to case when they fold to the same character.
-/

namespace ComponentAtlas.Unicode

/-- The foldings of one entry of the table. -/
def readFolding (word : List Char) : List (Nat × Nat) :=
  match word.splitOn ':' with
  | [source, target] =>
    match source.splitOn '+', source.splitOn '*' with
    | [start, count], _ =>
      (List.range (hexValue count)).map fun i => (hexValue start + i, hexValue target + i)
    | _, [start, count] =>
      (List.range (hexValue count)).map fun i => (hexValue start + 2 * i, hexValue target + 2 * i)
    | _, _ => [(hexValue source, hexValue target)]
  | _ => []

/-- The code points that fold to another one, with their foldings, in ascending order. -/
def foldings : Array (Nat × Nat) :=
  ((tableWords foldingTable).flatMap readFolding).toArray

/-- The folding of a code point. -/
def fold (code : Nat) : Nat :=
  match foldings[lastStart foldings code (foldings.size.log2 + 2) 0 foldings.size]? with
  | some (source, target) => if source = code then target else code
  | none => code

/-- The characters that equal the given one without regard to case, itself included. -/
def caseVariants (c : Char) : List Char :=
  let target := fold c.toNat
  let sources := (foldings.toList.filter fun entry => entry.2 = target).map Prod.fst
  c :: ((target :: sources).filter (· ≠ c.toNat)).map Char.ofNat

end ComponentAtlas.Unicode
