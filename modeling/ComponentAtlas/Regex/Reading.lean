import ComponentAtlas.Decimal.Power
import ComponentAtlas.Regex.Property

/-!
# Lexemes of regular expressions

The smallest parts of a written regular expression: flags, numbers, escapes and names. Every reader
takes the characters that are left and returns those that it leaves; `none` means that the text is no
regular expression.
-/

namespace ComponentAtlas.Regex

/-- The flags in force at a position. -/
structure Flags where
  ignoreCase : Bool := false
  multiLine : Bool := false
  /-- The dot matches line feeds. -/
  dotAll : Bool := false
  /-- Repetitions prefer fewer rounds, which does not change what matches. -/
  swapGreed : Bool := false
  unicode : Bool := true
  /-- Carriage returns end lines. -/
  crlf : Bool := false
  /-- White space and comments are skipped. -/
  verbose : Bool := false
  deriving DecidableEq, Inhabited

namespace Flags

/-- Sets or clears the flag of a given letter. -/
def set? (flags : Flags) (letter : Char) (value : Bool) : Option Flags :=
  match letter with
  | 'i' => some { flags with ignoreCase := value }
  | 'm' => some { flags with multiLine := value }
  | 's' => some { flags with dotAll := value }
  | 'U' => some { flags with swapGreed := value }
  | 'u' => some { flags with unicode := value }
  | 'R' => some { flags with crlf := value }
  | 'x' => some { flags with verbose := value }
  | _ => none

/-- A set of characters with the cases of its letters exchanged where case does not matter. -/
def fold (flags : Flags) (set : CharSet) : CharSet :=
  if !flags.ignoreCase then set
  else if flags.unicode then set.foldCase
  else set.foldAscii

/-- The complement of a set, which needs characters rather than bytes. -/
def complement? (flags : Flags) (negated : Bool) (set : CharSet) : Option CharSet :=
  if !negated then some set
  else if flags.unicode then some set.complement
  else none

end Flags

/-- What is left after white space and comments. -/
def skipBlank : List Char → List Char
  | [] => []
  | '#' :: rest => skipComment rest
  | c :: rest => if Unicode.isWhiteSpace c then skipBlank rest else c :: rest
where
  /-- What is left after a comment and the blanks behind it. -/
  skipComment : List Char → List Char
    | [] => []
    | '\n' :: rest => skipBlank rest
    | _ :: rest => skipComment rest

/-- What is left after white space and comments where they do not count. -/
def Flags.skip (flags : Flags) (rest : List Char) : List Char :=
  if flags.verbose then skipBlank rest else rest

/-- The digits at the front; between them blanks are skipped where they do not count. -/
def spanDecimal (flags : Flags) : (fuel : Nat) → List Char → List Char × List Char
  | 0, rest => ([], rest)
  | fuel + 1, rest =>
    match rest with
    | c :: tail =>
      if c.isDigit then
        let (digits, left) := spanDecimal flags fuel (flags.skip tail)
        (c :: digits, left)
      else ([], rest)
    | [] => ([], [])

/-- The largest count of a repetition. -/
def maxCount : Nat := twoTo 32 - 1

/-- A count of repetitions, with white space around it. -/
def count? (flags : Flags) (rest : List Char) : Option (Nat × List Char) :=
  let (digits, left) := spanDecimal flags rest.length (rest.dropWhile Unicode.isWhiteSpace)
  let left := left.dropWhile Unicode.isWhiteSpace
  let value := digits.foldl (fun total c => 10 * total + (c.toNat - '0'.toNat)) 0
  if digits.isEmpty || maxCount < value then none
  else some (value, if left.length < rest.length then flags.skip left else left)

/-- The bounds of a counted repetition, after the opening brace: the least count, and the largest
when there is one. -/
def counts? (flags : Flags) (rest : List Char) : Option ((Nat × Option Nat) × List Char) := do
  let (least, rest) ← count? flags (flags.skip rest)
  match rest with
  | '\x7d' :: rest => return ((least, some least), rest)
  | ',' :: rest =>
    match flags.skip rest with
    | '\x7d' :: rest => return ((least, none), rest)
    | rest =>
      match ← count? flags rest with
      | (most, '\x7d' :: rest) => if least ≤ most then return ((least, some most), rest) else none
      | _ => none
  | _ => none

/-- The value of a hexadecimal digit of either case. -/
def hexDigit? (c : Char) : Option Nat :=
  Unicode.hexDigit? c.toLower

/-- The character of a code point. -/
def char? (code : Nat) : Option Char :=
  if code < 0xd800 ∨ 0xdfff < code ∧ code < 0x110000 then some (Char.ofNat code) else none

/-- Hexadecimal digits up to a closing brace, which is at least one digit away. -/
def bracedHex? (flags : Flags) : (fuel : Nat) → (code : Option Nat) → List Char →
    Option (Nat × List Char)
  | 0, _, _ => none
  | fuel + 1, code, rest =>
    match flags.skip rest with
    | '\x7d' :: rest => code.map fun value => (value, rest)
    | c :: rest =>
      (hexDigit? c).bind fun digit => bracedHex? flags fuel (some (16 * code.getD 0 + digit)) rest
    | [] => none

/-- A fixed number of hexadecimal digits. -/
def fixedHex? (flags : Flags) : (count : Nat) → (code : Nat) → List Char → Option (Nat × List Char)
  | 0, code, rest => some (code, rest)
  | count + 1, code, rest =>
    match flags.skip rest with
    | c :: rest => (hexDigit? c).bind fun digit => fixedHex? flags count (16 * code + digit) rest
    | [] => none

/-- The character after `\x`, `\u` or `\U`. Without Unicode two digits stand for a byte, and a byte
beyond ASCII is no character. -/
def hexChar? (flags : Flags) (letter : Char) (rest : List Char) : Option (Char × List Char) :=
  match flags.skip rest with
  | '\x7b' :: rest => do
    let (code, rest) ← bracedHex? flags (rest.length + 1) none rest
    return (← char? code, flags.skip rest)
  | rest => do
    let digits := if letter = 'x' then 2 else if letter = 'u' then 4 else 8
    let (code, rest) ← fixedHex? flags digits 0 rest
    if letter = 'x' ∧ !flags.unicode ∧ 127 < code then none
    else return (← char? code, flags.skip rest)

/-- The name between braces. -/
def spanName (flags : Flags) : (fuel : Nat) → List Char → Option (List Char × List Char)
  | 0, _ => none
  | fuel + 1, rest =>
    match flags.skip rest with
    | '\x7d' :: rest => some ([], rest)
    | c :: rest => (spanName flags fuel rest).map fun (name, left) => (c :: name, left)
    | [] => none

/-- The set of a property's name, or of a name and a value. -/
def propertySet? (name : String) : Option CharSet :=
  match name.splitOn "!=" with
  | property :: value :: more => valueSet? property ("!=".intercalate (value :: more))
  | _ =>
    match name.splitOn ":" with
    | property :: value :: more => valueSet? property (":".intercalate (value :: more))
    | _ =>
      match name.splitOn "=" with
      | property :: value :: more => valueSet? property ("=".intercalate (value :: more))
      | _ => namedSet? name

/-- The set after `\p`. -/
def property? (flags : Flags) (rest : List Char) : Option (CharSet × List Char) :=
  match flags.skip rest with
  | '\x7b' :: rest => do
    let (name, rest) ← spanName flags (rest.length + 1) rest
    return (← propertySet? (String.ofList name), rest)
  | '\\' :: _ | [] => none
  | c :: rest => do
    return (← namedSet? c.toString, flags.skip rest)

/-- What an escape stands for. -/
inductive Escape
  | char (value : Char)
  /-- A set of characters, and about how many states an automaton needs to recognise one of them. -/
  | set (value : CharSet) (states : Nat)
  | look (condition : Assertion)

/-- About how many states an automaton over bytes needs for any character. -/
def anyCharStates : Nat := 12

/-- The same for a property that many scripts have characters of. -/
def propertyStates : Nat := 1200

/-- The same for the set of a shorthand letter. -/
def shorthandStates (unicode : Bool) (letter : Char) : Nat :=
  if !unicode then 1
  else match letter with
    | 'd' => 160
    | 's' => 10
    | _ => 1450

/-- The word edge of a given name. -/
def wordEdge? (name : String) : Option WordEdge :=
  match name with
  | "start" => some .start
  | "end" => some .end
  | "start-half" => some .startHalf
  | "end-half" => some .endHalf
  | _ => none

/-- The word edge after `\b`: one named between braces, or a boundary of either side. Braces that
hold no name are left for a repetition. -/
def boundary? (flags : Flags) (rest : List Char) : Option (WordEdge × List Char) :=
  let isNameChar (c : Char) : Bool := c.isAlpha || c = '-'
  match rest with
  | '\x7b' :: inner =>
    match flags.skip inner with
    | [] => none
    | c :: _ =>
      if isNameChar c then do
        let (name, left) ← spanName flags (inner.length + 1) inner
        return (← wordEdge? (String.ofList name), left)
      else some (.boundary, rest)
  | _ => some (.boundary, rest)

/-- The characters that an escape of one letter stands for. -/
def controlEscape? (letter : Char) : Option Char :=
  match letter with
  | 'a' => some '\x07'
  | 'f' => some '\x0c'
  | 't' => some '\t'
  | 'n' => some '\n'
  | 'r' => some '\r'
  | 'v' => some '\x0b'
  | _ => none

/-- What follows a backslash. Punctuation stands for itself. -/
def escape? (flags : Flags) : List Char → Option (Escape × List Char)
  | [] => none
  | c :: rest =>
    if c = 'x' ∨ c = 'u' ∨ c = 'U' then
      (hexChar? flags c rest).map fun (value, left) => (.char value, left)
    else if c = 'p' ∨ c = 'P' then
      if !flags.unicode then none
      else do
        let (set, left) ← property? flags rest
        return (.set (← flags.complement? (c = 'P') (flags.fold set)) propertyStates, left)
    else if "dswDSW".toList.contains c then do
      let set ← flags.complement? c.isUpper (shorthand flags.unicode c.toLower)
      return (.set set (shorthandStates flags.unicode c.toLower), rest)
    else if c = 'b' then
      (boundary? flags rest).map fun (edge, left) =>
        (.look (.word edge (wordChars flags.unicode)), left)
    else if c = 'B' then some (.look (.word .noBoundary (wordChars flags.unicode)), rest)
    else if c = '<' then some (.look (.word .start (wordChars flags.unicode)), rest)
    else if c = '>' then some (.look (.word .end (wordChars flags.unicode)), rest)
    else if c = 'A' then some (.look .textStart, rest)
    else if c = 'z' then some (.look .textEnd, rest)
    else match controlEscape? c with
      | some value => some (.char value, rest)
      | none => if c.toNat < 128 && !c.isAlphanum then some (.char c, rest) else none

/-- The flags up to a colon or a closing parenthesis, which is returned with them and with whether
there are any. A letter may occur once and a minus once, before the flags that it clears. -/
def flags? (value : Bool) (seen : List Char) (flags : Flags) :
    List Char → Option ((Flags × Bool × Char) × List Char)
  | [] => none
  | c :: rest =>
    if c = ':' ∨ c = ')' then
      if seen.head? = some '-' then none else some ((flags, !seen.isEmpty, c), rest)
    else if seen.contains c then none
    else if c = '-' then flags? false (c :: seen) flags rest
    else match flags.set? c value with
      | some flags => flags? value (c :: seen) flags rest
      | none => none

/-- The name of a group, up to its closing bracket. -/
def groupName? (rest : List Char) : Option (String × List Char) :=
  let name := rest.takeWhile (· ≠ '>')
  let isNameChar (c : Char) : Bool :=
    c = '_' || c = '.' || c = '[' || c = ']' || Unicode.isAlphabetic c ||
      Unicode.hasCategory ["Nd", "Nl", "No"] c
  match name, rest.dropWhile (· ≠ '>') with
  | first :: others, _ :: left =>
    if (first = '_' || Unicode.isAlphabetic first) && others.all isNameChar then
      some (String.ofList name, left)
    else none
  | _, _ => none

end ComponentAtlas.Regex
