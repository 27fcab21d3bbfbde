import ComponentAtlas.Fault

/-!
# Lexemes of source text

Keys, quoted strings and literals as they are written in source text. Strings stand between single
quotes and keep line feeds as they are; keys that are no plain identifiers stand between double
quotes. In both, a backslash guards the quote and itself.
-/

namespace ComponentAtlas.SourceText

/-- A character between the given quotes. -/
def guarded (quote c : Char) : List Char :=
  if c = '\\' ∨ c = quote then ['\\', c] else [c]

/-- A text between the given quotes. -/
def enclose (quote : Char) (text : String) : String :=
  String.ofList (quote :: text.toList.flatMap (guarded quote) ++ [quote])

/-- A string literal. -/
def quoteString (text : String) : String :=
  enclose '\'' text

/-- The characters of keys that need no quotes. -/
def isBareKeyChar (c : Char) : Bool :=
  c.isAlphanum || c == '_' || c == ':' || c == '-'

/-- Whether a key needs no quotes. -/
def isBareKey (key : String) : Bool :=
  key ≠ "" && key.toList.all isBareKeyChar

/-- A property key, quoted when it is no plain identifier. -/
def formatKey (key : String) : String :=
  if isBareKey key then key else enclose '"' key

/-- A floating-point number, which always shows a point and so is never read as an integer. -/
def formatFloat (value : Float) : String :=
  let text := NumberLayout.plain.text value
  if text.toList.contains '.' then text else text ++ ".0"

/-- A literal at a given position; NaN and the infinities have no form. -/
def formatLiteral (path : PropertyPath) (literal : Literal) : Except Fault String :=
  if literal.isRenderable then
    .ok <| match literal with
      | .null => "null"
      | .bool value => if value then "true" else "false"
      | .integer value => toString value.toInt
      | .float value => formatFloat value
      | .string value => quoteString value
  else .error (.unsupportedLiteral path literal)

end ComponentAtlas.SourceText
