import ComponentAtlas.Regex
import ComponentAtlas.Unicode.Folding
import ComponentAtlas.Unicode.Property
import ComponentAtlas.Unicode.Script

/-!
# Named sets of characters

The sets that a regular expression names: shorthands such as `\w`, classes such as `[:alpha:]`, and
properties such as `\p{Greek}`. Case, spaces, hyphens and underscores in the name of a property do
not matter, nor does a leading `is`.
-/

namespace ComponentAtlas

namespace CharSet

/-- The characters of both sets. -/
def inter (left right : CharSet) : CharSet := fun c => left c && right c

/-- The characters of the first set that are not in the second. -/
def difference (left right : CharSet) : CharSet := fun c => left c && !right c

/-- The characters of exactly one of two sets. -/
def symmetricDifference (left right : CharSet) : CharSet := fun c => left c != right c

/-- The characters that are not in a set. -/
def complement (set : CharSet) : CharSet := fun c => !set c

/-- The characters from one to another, both included. -/
def range (low high : Char) : CharSet := fun c => low ≤ c && c ≤ high

/-- The characters that equal one of the set without regard to case. -/
def foldCase (set : CharSet) : CharSet := fun c => (Unicode.caseVariants c).any set

/-- The same, where only ASCII letters have a case. -/
def foldAscii (set : CharSet) : CharSet := fun c => set c || set c.toLower || set c.toUpper

end CharSet

namespace Regex

/-- The white space of ASCII. -/
def isAsciiSpace (c : Char) : Bool := c = ' ' || (9 ≤ c.toNat && c.toNat ≤ 13)

/-- The word characters of ASCII. -/
def isAsciiWord (c : Char) : Bool := c.isAlphanum || c = '_'

/-- The set of a shorthand letter in lower case. -/
def shorthand (unicode : Bool) (letter : Char) : CharSet :=
  match letter with
  | 'd' => if unicode then Unicode.isDigit else Char.isDigit
  | 's' => if unicode then Unicode.isWhiteSpace else isAsciiSpace
  | _ => if unicode then Unicode.isWord else isAsciiWord

/-- The characters of words, by which word boundaries are found. -/
def wordChars (unicode : Bool) : CharSet :=
  shorthand unicode 'w'

/-- The ASCII class of a given name. -/
def asciiClass? (name : String) : Option CharSet :=
  let code (low high : Nat) : CharSet := fun c => low ≤ c.toNat && c.toNat ≤ high
  match name with
  | "alnum" => some Char.isAlphanum
  | "alpha" => some Char.isAlpha
  | "ascii" => some (code 0 127)
  | "blank" => some fun c => c = ' ' || c = '\t'
  | "cntrl" => some fun c => c.toNat ≤ 31 || c.toNat = 127
  | "digit" => some Char.isDigit
  | "graph" => some (code 33 126)
  | "lower" => some Char.isLower
  | "print" => some (code 32 126)
  | "punct" => some fun c => 33 ≤ c.toNat && c.toNat ≤ 126 && !c.isAlphanum
  | "space" => some isAsciiSpace
  | "upper" => some Char.isUpper
  | "word" => some isAsciiWord
  | "xdigit" => some fun c =>
    c.isDigit || ('a' ≤ c && c ≤ 'f') || ('A' ≤ c && c ≤ 'F')
  | _ => none

/-- A name without what does not matter in it. -/
def propertyName (name : String) : String :=
  let stripped : List Char := match name.toList with
    | i :: s :: rest => if i.toLower = 'i' && s.toLower = 's' then rest else i :: s :: rest
    | short => short
  let kept := (stripped.filter fun c => c.toNat < 128 && !" _-".toList.contains c).map Char.toLower
  if stripped.length < name.length && kept = ['c'] then "isc" else String.ofList kept

/-- Whether a name is one of those given. -/
def isNamed (name : String) (names : List String) : Bool :=
  names.any fun candidate => propertyName candidate = name

/-- The general category, or group of them, of a given name. -/
def categorySet? (name : String) : Option CharSet :=
  match name with
  | "any" => some fun _ => true
  | "assigned" => some fun c => Unicode.category c != "Cn"
  | "ascii" => some fun c => c.toNat < 128
  | _ =>
    (Unicode.categoryGroups.find? fun group => isNamed name group.1).map fun group =>
      Unicode.hasCategory group.2

/-- The script of a given name. -/
def scriptSet? (name : String) : Option CharSet :=
  (Unicode.scriptNames.find? fun entry => isNamed name entry.2).map fun entry c =>
    Unicode.script c == entry.1

/-- The property of a given name that characters have or have not. -/
def binarySet? (name : String) : Option CharSet :=
  if isNamed name ["White_Space", "WSpace", "space"] then some Unicode.isWhiteSpace
  else
    match Unicode.ruleProperties.find? fun entry => isNamed name entry.1 with
    | some entry => some entry.2
    | none =>
      (Unicode.rangeProperties.find? fun entry => isNamed name entry.1).map fun entry c =>
        Unicode.inRanges entry.2 c.toNat

/-- The set that a property's name stands for. The short names of three categories win over those
of properties. -/
def namedSet? (name : String) : Option CharSet :=
  let name := propertyName name
  (if ["cf", "sc", "lc"].contains name then none else binarySet? name) <|>
    categorySet? name <|> scriptSet? name

/-- The set of the characters for which a property has a value. -/
def valueSet? (property value : String) : Option CharSet :=
  let property := propertyName property
  if isNamed property ["General_Category", "gc"] then categorySet? (propertyName value)
  else if isNamed property ["Script", "sc", "Script_Extensions", "scx"] then
    scriptSet? (propertyName value)
  else none

end Regex

end ComponentAtlas
