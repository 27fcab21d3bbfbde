import ComponentAtlas.Unicode.Runs
import ComponentAtlas.Unicode.ScriptTable

/-!
# Scripts

The writing system that each code point belongs to, named by four letters.
-/

namespace ComponentAtlas.Unicode

/-- The starts and codes of the runs of equal script. -/
def scriptRuns : Array (Nat × String) :=
  readRuns 4 scriptTable

/-- The code of the script of a character. -/
def script (c : Char) : String :=
  (runLabel? scriptRuns c.toNat).getD "Zzzz"

/-- The scripts with their names: first the code, then the long names. -/
def scriptNames : List (String × List String) :=
  (tableWords scriptNameTable).map fun word =>
    match word.splitOn ':' with
    | [code, names] =>
      (String.ofList code, String.ofList code :: (names.splitOn ',').map String.ofList)
    | _ => (String.ofList word, [String.ofList word])

end ComponentAtlas.Unicode
