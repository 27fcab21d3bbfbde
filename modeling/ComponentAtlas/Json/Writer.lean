import ComponentAtlas.Decimal.Layout
import ComponentAtlas.Value

/-!
# Writing JSON

Two layouts: compact, without any space, and indented by two spaces. Strings escape quotes,
backslashes and control characters, and nothing else.
-/

namespace ComponentAtlas.Json

/-- A digit of a `\u` escape. -/
def hexDigit (n : Nat) : Char :=
  (Nat.toDigits 16 n).headD '0'

/-- A character as it stands between the quotes. -/
def escapeChar (c : Char) : List Char :=
  match c with
  | '"' => ['\\', '"']
  | '\\' => ['\\', '\\']
  | '\n' => ['\\', 'n']
  | '\r' => ['\\', 'r']
  | '\t' => ['\\', 't']
  | '\x08' => ['\\', 'b']
  | '\x0c' => ['\\', 'f']
  | _ =>
    if c.toNat < 32 then
      ['\\', 'u', '0', '0', hexDigit (c.toNat / 16), hexDigit (c.toNat % 16)]
    else [c]

/-- A text between quotes. -/
def quote (text : String) : String :=
  String.ofList ('"' :: text.toList.flatMap escapeChar ++ ['"'])

mutual

/-- A value without any space. -/
def compact : Value → String
  | .null => "null"
  | .bool value => if value then "true" else "false"
  | .integer value => toString value
  | .float value => NumberLayout.json.text value
  | .text value => quote value
  | .list items => "[" ++ ",".intercalate (compactItems items) ++ "]"
  | .record fields => "\x7b" ++ ",".intercalate (compactFields fields) ++ "\x7d"

/-- The items of a list without any space. -/
def compactItems : List Value → List String
  | [] => []
  | item :: rest => compact item :: compactItems rest

/-- The fields of a record without any space. -/
def compactFields : List (String × Value) → List String
  | [] => []
  | (name, value) :: rest => (quote name ++ ":" ++ compact value) :: compactFields rest

end

/-- A line break followed by two spaces for each level. -/
def newline (level : Nat) : String :=
  "\n" ++ "".pushn ' ' (2 * level)

/-- Items between brackets, each on a line of its own. -/
def enclose (level : Nat) (opening closing : String) (items : List String) : String :=
  if items.isEmpty then opening ++ closing
  else
    opening ++ newline (level + 1) ++ ("," ++ newline (level + 1)).intercalate items ++
      newline level ++ closing

mutual

/-- A value at the given level of nesting, one item or field a line. -/
def indented (level : Nat) : Value → String
  | .list items => enclose level "[" "]" (indentedItems (level + 1) items)
  | .record fields => enclose level "\x7b" "\x7d" (indentedFields (level + 1) fields)
  | value => compact value

/-- The items of a list at a level of nesting. -/
def indentedItems (level : Nat) : List Value → List String
  | [] => []
  | item :: rest => indented level item :: indentedItems level rest

/-- The fields of a record at a level of nesting. -/
def indentedFields (level : Nat) : List (String × Value) → List String
  | [] => []
  | (name, value) :: rest =>
    (quote name ++ ": " ++ indented level value) :: indentedFields level rest

end

end ComponentAtlas.Json
