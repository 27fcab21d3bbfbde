import ComponentAtlas.Decimal.Power
import ComponentAtlas.Decimal.Reading
import ComponentAtlas.Document

/-!
# Reading JSON

Strict JSON. A reader takes the characters of a text and returns what it found with the rest. A
value that is well formed but has no meaning (a number out of range, half of a surrogate pair, a
value nested too deeply) becomes `Document.malformed`.
-/

namespace ComponentAtlas.Json

/-- Nested lists and tables beyond this many levels have no value. -/
def depthLimit : Nat := 127

/-- Whether a character is white space of JSON. -/
def isBlank (c : Char) : Bool :=
  c == ' ' || c == '\n' || c == '\t' || c == '\r'

/-- The text from its first character on that is no white space. -/
def skipBlanks (text : List Char) : List Char :=
  text.dropWhile isBlank

/-- The value of a hexadecimal digit. -/
def hexValue? (c : Char) : Option Nat :=
  if '0' ≤ c ∧ c ≤ '9' then some (c.toNat - '0'.toNat)
  else if 'a' ≤ c ∧ c ≤ 'f' then some (c.toNat - 'a'.toNat + 10)
  else if 'A' ≤ c ∧ c ≤ 'F' then some (c.toNat - 'A'.toNat + 10)
  else none

/-- The value of four hexadecimal digits. -/
def hexWord? (a b c d : Char) : Option Nat := do
  return ((← hexValue? a) * 16 + (← hexValue? b)) * 256 +
    ((← hexValue? c) * 16 + (← hexValue? d))

/-- Whether a code unit is the first half of a surrogate pair. -/
def isHighSurrogate (unit : Nat) : Bool :=
  0xd800 ≤ unit && unit ≤ 0xdbff

/-- Whether a code unit is the second half of a surrogate pair. -/
def isLowSurrogate (unit : Nat) : Bool :=
  0xdc00 ≤ unit && unit ≤ 0xdfff

/-- The code point of a surrogate pair. -/
def surrogatePair (high low : Nat) : Nat :=
  0x10000 + (high - 0xd800) * 1024 + (low - 0xdc00)

/-- The character that a letter after a backslash stands for. -/
def escaped? (c : Char) : Option Char :=
  match c with
  | '"' => some '"'
  | '\\' => some '\\'
  | '/' => some '/'
  | 'b' => some '\x08'
  | 'f' => some '\x0c'
  | 'n' => some '\n'
  | 'r' => some '\r'
  | 't' => some '\t'
  | _ => none

/-- A piece of a string: a character, or a code unit given by four hexadecimal digits. -/
inductive Piece
  | char (c : Char)
  | unit (code : Nat)
  deriving DecidableEq

/-- The characters of a string, unless half of a surrogate pair stands alone. -/
def joinPieces : List Piece → Option (List Char)
  | [] => some []
  | .char c :: rest => (joinPieces rest).map (c :: ·)
  | [.unit code] =>
    if isHighSurrogate code || isLowSurrogate code then none else some [Char.ofNat code]
  | .unit code :: .char c :: rest =>
    if isHighSurrogate code || isLowSurrogate code then none
    else (joinPieces rest).map fun chars => Char.ofNat code :: c :: chars
  | .unit code :: .unit next :: rest =>
    if isHighSurrogate code then
      if isLowSurrogate next then
        (joinPieces rest).map (Char.ofNat (surrogatePair code next) :: ·)
      else none
    else if isLowSurrogate code then none
    else (joinPieces (.unit next :: rest)).map (Char.ofNat code :: ·)

/-- Reads a string after its opening quote, and returns the text after the closing one. -/
def readPieces : List Char → Option (List Piece × List Char)
  | [] => none
  | '"' :: rest => some ([], rest)
  | '\\' :: 'u' :: a :: b :: c :: d :: rest => do
    let code ← hexWord? a b c d
    let (pieces, after) ← readPieces rest
    return (.unit code :: pieces, after)
  | '\\' :: c :: rest => do
    let plain ← escaped? c
    let (pieces, after) ← readPieces rest
    return (.char plain :: pieces, after)
  | c :: rest => do
    if c.toNat < 32 then failure
    let (pieces, after) ← readPieces rest
    return (.char c :: pieces, after)

/-- Reads a string after its opening quote. -/
def readString (text : List Char) : Option (Document × List Char) :=
  (readPieces text).map fun (pieces, rest) =>
    match joinPieces pieces with
    | some chars => (.text (String.ofList chars), rest)
    | none => (.malformed, rest)

/-- Reads the digits of a number after its sign: no leading zeros, at least one digit on each side
of a point. -/
def readMagnitude (negative : Bool) (text : List Char) :
    Option (DecimalText × Bool × List Char) := do
  let (whole, afterWhole) := DecimalText.spanDigits text
  if whole.isEmpty || (whole.head? = some 0 && whole.length ≠ 1) then failure
  let (fraction, afterFraction, pointed) ← match afterWhole with
    | '.' :: rest =>
      let (digits, after) := DecimalText.spanDigits rest
      if digits.isEmpty then none else some (digits, after, true)
    | _ => some ([], afterWhole, false)
  match afterFraction with
  | c :: rest =>
    if c = 'e' ∨ c = 'E' then
      let (exponent, after) ← DecimalText.readExponent? rest
      return (⟨negative, whole, fraction, exponent⟩, true, after)
    else return (⟨negative, whole, fraction, 0⟩, pointed, afterFraction)
  | [] => return (⟨negative, whole, fraction, 0⟩, pointed, [])

/-- The document of a number. Digits alone that fit into a word are an integer, except for negative
zero; all else is a double. -/
def numberDocument (number : DecimalText) (fractional : Bool) : Document :=
  let magnitude := DecimalText.value number.whole
  if !fractional && !number.negative && magnitude < twoTo 64 then .integer magnitude
  else if !fractional && number.negative && 0 < magnitude && magnitude ≤ twoTo 63 then
    .integer (-(magnitude : Int))
  else match number.scaled? with
    | some value => .float value
    | none => .malformed

/-- Reads a number. -/
def readNumber (text : List Char) : Option (Document × List Char) := do
  let (number, fractional, rest) ← match text with
    | '-' :: unsigned => readMagnitude true unsigned
    | _ => readMagnitude false text
  return (numberDocument number fractional, rest)

/-- A list or table at the given level of nesting. -/
def nested (level : Nat) (document : Document) : Document :=
  if level ≤ depthLimit then document else .malformed

mutual

/-- Reads a value inside the given number of lists and tables. -/
def readValue : (fuel level : Nat) → List Char → Option (Document × List Char)
  | 0, _, _ => none
  | fuel + 1, level, text =>
    match skipBlanks text with
    | 'n' :: 'u' :: 'l' :: 'l' :: rest => some (.null, rest)
    | 't' :: 'r' :: 'u' :: 'e' :: rest => some (.bool true, rest)
    | 'f' :: 'a' :: 'l' :: 's' :: 'e' :: rest => some (.bool false, rest)
    | '"' :: rest => readString rest
    | '[' :: rest =>
      match skipBlanks rest with
      | ']' :: after => some (nested (level + 1) (.list []), after)
      | _ => (readItems fuel (level + 1) rest).map fun (items, after) =>
          (nested (level + 1) (.list items), after)
    | '\x7b' :: rest =>
      match skipBlanks rest with
      | '\x7d' :: after => some (nested (level + 1) (.table []), after)
      | _ => (readEntries fuel (level + 1) rest).map fun (entries, after) =>
          (nested (level + 1) (.table entries), after)
    | other => readNumber other

/-- Reads the items of a list up to its closing bracket. -/
def readItems : (fuel level : Nat) → List Char → Option (List Document × List Char)
  | 0, _, _ => none
  | fuel + 1, level, text => do
    let (item, rest) ← readValue fuel level text
    match skipBlanks rest with
    | ',' :: after =>
      let (items, last) ← readItems fuel level after
      return (item :: items, last)
    | ']' :: after => return ([item], after)
    | _ => none

/-- Reads the entries of a table up to its closing brace. -/
def readEntries :
    (fuel level : Nat) → List Char → Option (List (Document × Document) × List Char)
  | 0, _, _ => none
  | fuel + 1, level, text => do
    match skipBlanks text with
    | '"' :: afterQuote =>
      let (key, afterKey) ← readString afterQuote
      match skipBlanks afterKey with
      | ':' :: afterColon =>
        let (value, rest) ← readValue fuel level afterColon
        let entry := (key, value)
        match skipBlanks rest with
        | ',' :: after =>
          let (entries, last) ← readEntries fuel level after
          return (entry :: entries, last)
        | '\x7d' :: after => return ([entry], after)
        | _ => none
      | _ => none
    | _ => none

end

/-- Reads a text that holds one value. -/
def read? (text : String) : Option Document :=
  let chars := text.toList
  match readValue (2 * chars.length + 2) 0 chars with
  | some (document, rest) => if (skipBlanks rest).isEmpty then some document else none
  | none => none

end ComponentAtlas.Json
