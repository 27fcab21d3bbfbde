/-!
# Code point tables

Tables of code points in three written forms: consecutive runs with a label, sets of ranges, and
foldings. Reading them is total: a piece that has not the expected form is skipped.
-/

namespace ComponentAtlas.Unicode

/-- The value of a lower-case hexadecimal digit. -/
def hexDigit? (c : Char) : Option Nat :=
  if '0' ≤ c ∧ c ≤ '9' then some (c.toNat - '0'.toNat)
  else if 'a' ≤ c ∧ c ≤ 'f' then some (c.toNat - 'a'.toNat + 10)
  else none

/-- The value of a text of hexadecimal digits; other characters count as zero. -/
def hexValue (digits : List Char) : Nat :=
  digits.foldl (fun total c => 16 * total + (hexDigit? c).getD 0) 0

/-- The runs read so far, and the one being read. -/
structure RunReader where
  start : Nat := 0
  length : Nat := 0
  label : List Char := []
  runs : Array (Nat × String) := #[]

/-- Reads one more character of a table of runs whose labels have the given width. -/
def RunReader.step (width : Nat) (reader : RunReader) (c : Char) : RunReader :=
  match reader.label.isEmpty, hexDigit? c with
  | true, some digit => { reader with length := 16 * reader.length + digit }
  | _, _ =>
    let label := c :: reader.label
    if label.length = width then
      { start := reader.start + reader.length
        runs := reader.runs.push (reader.start, String.ofList label.reverse) }
    else { reader with label }

/-- The starts and labels of the runs of a table. -/
def readRuns (width : Nat) (table : List String) : Array (Nat × String) :=
  (table.foldl (fun reader piece => piece.toList.foldl (RunReader.step width) reader)
    ({} : RunReader)).runs

/-- The index of the last entry between two bounds whose start is at most the given code point. -/
def lastStart {α : Type} (runs : Array (Nat × α)) (code : Nat) : (fuel low high : Nat) → Nat
  | 0, low, _ => low
  | fuel + 1, low, high =>
    if high ≤ low + 1 then low
    else
      let middle := (low + high) / 2
      match runs[middle]? with
      | some (start, _) =>
        if start ≤ code then lastStart runs code fuel middle high
        else lastStart runs code fuel low middle
      | none => low

/-- The label of the run that holds a code point. -/
def runLabel? (runs : Array (Nat × String)) (code : Nat) : Option String :=
  runs[lastStart runs code (runs.size.log2 + 2) 0 runs.size]?.map Prod.snd

/-- The words of a table. -/
def tableWords (table : List String) : List (List Char) :=
  ((String.join table).toList.splitOn ' ').filter (· ≠ [])

/-- The ranges of a table of ranges. -/
def readRanges (table : List String) : Array (Nat × Nat) :=
  ((tableWords table).map fun word =>
    match word.splitOn '-' with
    | [low, high] => (hexValue low, hexValue high)
    | _ => (hexValue word, hexValue word)).toArray

/-- Whether a code point lies in one of the ranges, which stand in ascending order. -/
def inRanges (ranges : Array (Nat × Nat)) (code : Nat) : Bool :=
  match ranges[lastStart ranges code (ranges.size.log2 + 2) 0 ranges.size]? with
  | some (low, high) => low ≤ code && code ≤ high
  | none => false

end ComponentAtlas.Unicode
