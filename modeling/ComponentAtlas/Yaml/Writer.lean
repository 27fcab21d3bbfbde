import ComponentAtlas.Document.Scalar
import ComponentAtlas.Decimal.Layout
import ComponentAtlas.Value
import ComponentAtlas.Yaml.Cursor

/-!
# Writing YAML

Block layout: one field or item a line, fields of nested records indented by two spaces, the items
of a list not indented under their key. A text is written plain when it reads back as the same
text; otherwise between single quotes, between double quotes when it needs escapes, or as a literal
block when it has several lines.
-/

namespace ComponentAtlas.Yaml

/-- The characters that may stand in a text without an escape. -/
def isPrintable (c : Char) : Bool :=
  let code := c.toNat
  code = 0x0a || (0x20 ≤ code && code ≤ 0x7e) ||
    (0xa0 ≤ code && code ≠ 0xfeff && code ≠ 0xfffe && code ≠ 0xffff)

/-- Whether a character separates words, or there is none. -/
def isGap : Option Char → Bool
  | none => true
  | some c => c == ' ' || c == '\t' || isBreak c || c == '\x00'

/-- Each character of a text with those before and after it. -/
def withNeighbours (text : List Char) : List (Option Char × Char × Option Char) :=
  let before := none :: text.map some
  let after := (text.drop 1).map some ++ [none]
  (before.zip (text.zip after)).map fun (previous, c, next) => (previous, c, next)

/-- Whether a character in its place would be taken for punctuation of a block. -/
def isIndicator (place : Option Char × Char × Option Char) : Bool :=
  let (previous, c, next) := place
  match previous with
  | none =>
    ("#,[]\x7b\x7d&*!|>'\"%@`".toList.contains c) ||
      ((c == '?' || c == ':' || c == '-') && isGap next)
  | some p => (c == ':' && isGap next) || (c == '#' && isGap (some p))

/-- What decides between the styles of a text. -/
structure Traits where
  /-- Some character ends a line. -/
  breaks : Bool
  /-- Some character needs an escape. -/
  special : Bool
  /-- Some character would be taken for punctuation, or the text for a document mark. -/
  indicators : Bool
  /-- The text starts or ends with a space or a line break. -/
  edges : Bool
  trailingSpace : Bool
  /-- A space follows a line break. -/
  breakSpace : Bool
  /-- A line break follows a space. -/
  spaceBreak : Bool

/-- Whether a character of the first kind is followed by one of the second. -/
def hasPair (first second : Char → Bool) (text : List Char) : Bool :=
  (text.zip (text.drop 1)).any fun (a, b) => first a && second b

/-- The traits of a text. -/
def Traits.of (text : List Char) : Traits :=
  let isSpace := (· == ' ')
  let isEdge c := isSpace c || isBreak c
  { breaks := text.any isBreak
    special := text.any fun c => !isPrintable c
    indicators := text.take 3 == ['-', '-', '-'] || text.take 3 == ['.', '.', '.'] ||
      (withNeighbours text).any isIndicator
    edges := text.head?.any isEdge || text.getLast?.any isEdge
    trailingSpace := text.getLast?.any isSpace
    breakSpace := hasPair isBreak isSpace text
    spaceBreak := hasPair isSpace isBreak text }

/-- The styles of a text. -/
inductive Style
  | plain
  | singleQuoted
  | doubleQuoted
  | literal
  deriving DecidableEq

/-- Whether a plain text would be read as something else than a text. -/
def isAmbiguous (text : String) : Bool :=
  match Scalar.resolvePlain text with
  | .text _ => Scalar.isPaddedNumber text.toList
  | _ => true

/-- The style of a text. Only a text with a line feed may be a literal block. -/
def styleOf (text : String) : Style :=
  let chars := text.toList
  let traits := Traits.of chars
  let singleAllowed := !traits.breakSpace && !traits.spaceBreak && !traits.special
  if chars.contains '\n' then
    if traits.trailingSpace || traits.spaceBreak || traits.special then .doubleQuoted
    else .literal
  else if !isAmbiguous text && !traits.edges && !traits.indicators && !traits.breaks &&
      singleAllowed then .plain
  else if singleAllowed then .singleQuoted
  else .doubleQuoted

/-- A number in upper-case hexadecimal, filled up with zeros to the given width. -/
def hex (width code : Nat) : String :=
  let digits := (Nat.toDigits 16 code).map Char.toUpper
  "".pushn '0' (width - digits.length) ++ String.ofList digits

/-- A character between double quotes. -/
def escapeChar (c : Char) : String :=
  if isPrintable c && !isBreak c && c ≠ '"' && c ≠ '\\' then c.toString
  else
    match c.toNat with
    | 0x00 => "\\0"
    | 0x07 => "\\a"
    | 0x08 => "\\b"
    | 0x09 => "\\t"
    | 0x0a => "\\n"
    | 0x0b => "\\v"
    | 0x0c => "\\f"
    | 0x0d => "\\r"
    | 0x1b => "\\e"
    | 0x22 => "\\\""
    | 0x5c => "\\\\"
    | 0x85 => "\\N"
    | 0xa0 => "\\_"
    | 0x2028 => "\\L"
    | 0x2029 => "\\P"
    | code =>
      if code ≤ 0xff then "\\x" ++ hex 2 code
      else if code ≤ 0xffff then "\\u" ++ hex 4 code
      else "\\U" ++ hex 8 code

/-- Spaces. -/
def spaces (count : Nat) : String :=
  "".pushn ' ' count

/-- A text between single quotes. Line breaks other than line feeds stay, and what follows them is
indented. -/
def singleQuoted (indent : Nat) (text : List Char) : String :=
  let step (state : String × Bool) (c : Char) : String × Bool :=
    if isBreak c then (state.1.push c, true)
    else
      let written := if state.2 then state.1 ++ spaces indent else state.1
      ((if c = '\'' then written ++ "''" else written.push c), false)
  let (body, afterBreak) := text.foldl step ("'", false)
  (if afterBreak then body ++ spaces indent else body) ++ "'"

/-- The mark that tells how the line feeds at the end of a literal block count. -/
def chomping (text : List Char) : String :=
  match text.reverse with
  | [] => "-"
  | [c] => if isBreak c then "+" else "-"
  | c :: d :: _ => if !isBreak c then "-" else if isBreak d then "+" else ""

/-- A text as a literal block with its lines indented, up to the last line break. -/
def literalBlock (indent : Nat) (text : List Char) : String :=
  let hint := if text.head?.any fun c => c == ' ' || isBreak c then "2" else ""
  let step (state : String × Bool) (c : Char) : String × Bool :=
    if isBreak c then (state.1.push c, true)
    else ((if state.2 then state.1 ++ spaces indent else state.1).push c, false)
  let (body, ended) := text.foldl step ("", true)
  "|" ++ hint ++ chomping text ++ "\n" ++ body ++ if ended then "" else "\n"

/-- A text between double quotes. -/
def doubleQuoted (text : List Char) : String :=
  "\"" ++ String.join (text.map escapeChar) ++ "\""

/-- A text in a style other than a literal block. -/
def flowText (indent : Nat) (text : String) : String :=
  match styleOf text with
  | .plain => text
  | .singleQuoted => singleQuoted indent text.toList
  | .doubleQuoted | .literal => doubleQuoted text.toList

/-- A text followed by a line break, its lines indented if it has several. -/
def textLine (indent : Nat) (text : String) : String :=
  match styleOf text with
  | .literal => literalBlock indent text.toList
  | _ => flowText indent text ++ "\n"

/-- Whether a name may stand on one line with its value. -/
def isSimpleKey (name : String) : Bool :=
  !name.toList.any isBreak && name.utf8ByteSize ≤ 128

/-- Entries that start at the given indentation; the first one's is left to the caller. -/
def joinEntries (indent : Nat) (entries : List String) : String :=
  (spaces indent).intercalate entries

/-- Where a value starts: after the key of a record, or after a mark (a dash, a question mark or a
colon of its own). -/
inductive Place
  | key
  | mark
  deriving DecidableEq

mutual

/-- A value at a place inside a list or record that is indented by `indent`. -/
def valueText (place : Place) (indent : Nat) : Value → String
  | .null => " null\n"
  | .bool value => if value then " true\n" else " false\n"
  | .integer value => " " ++ toString value ++ "\n"
  | .float value => " " ++ NumberLayout.yaml.text value ++ "\n"
  | .text value => " " ++ textLine (indent + 2) value
  | .list values =>
    if values.isEmpty then " []\n"
    else match place with
      | .key => "\n" ++ spaces indent ++ joinEntries indent (itemTexts indent values)
      | .mark => " " ++ joinEntries (indent + 2) (itemTexts (indent + 2) values)
  | .record fields =>
    if fields.isEmpty then " \x7b\x7d\n"
    else match place with
      | .key => "\n" ++ spaces (indent + 2) ++ joinEntries (indent + 2)
          (fieldTexts (indent + 2) fields)
      | .mark => " " ++ joinEntries (indent + 2) (fieldTexts (indent + 2) fields)

/-- The items of a list. -/
def itemTexts (indent : Nat) : List Value → List String
  | [] => []
  | value :: rest => ("-" ++ valueText .mark indent value) :: itemTexts indent rest

/-- The fields of a record. A name that does not fit before a colon gets a mark of its own. -/
def fieldTexts (indent : Nat) : List (String × Value) → List String
  | [] => []
  | (name, value) :: rest =>
    (if isSimpleKey name then flowText indent name ++ ":" ++ valueText .key indent value
      else "? " ++ textLine (indent + 2) name ++ spaces indent ++ ":" ++
        valueText .mark indent value) :: fieldTexts indent rest

end

/-- A value as a document. -/
def document (value : Value) : String :=
  match value with
  | .list (item :: rest) => joinEntries 0 (itemTexts 0 (item :: rest))
  | .record (field :: rest) => joinEntries 0 (fieldTexts 0 (field :: rest))
  | other => ((valueText .mark 0 other).drop 1).toString

end ComponentAtlas.Yaml
