import ComponentAtlas.Unicode.Property

/-!
# Quoted text

The form in which messages show a string: between double quotes, with escapes for quotes,
backslashes and every character that would not show as itself.
-/

namespace ComponentAtlas.Text

/-- A character as it stands between the quotes. -/
def escapeChar (c : Char) : String :=
  match c with
  | '\x00' => "\\0"
  | '\t' => "\\t"
  | '\n' => "\\n"
  | '\r' => "\\r"
  | '"' => "\\\""
  | '\\' => "\\\\"
  | _ =>
    if 32 ≤ c.toNat ∧ c.toNat < 127 then c.toString
    else if Unicode.isGraphemeExtend c || !Unicode.isPrintable c then
      "\\u\x7b" ++ String.ofList (Nat.toDigits 16 c.toNat) ++ "\x7d"
    else c.toString

/-- The text between double quotes. -/
def quoted (text : String) : String :=
  "\"" ++ String.join (text.toList.map escapeChar) ++ "\""

/-- The text without white space at its end. -/
def trimEnd (text : String) : String :=
  String.ofList (text.toList.reverse.dropWhile Unicode.isWhiteSpace).reverse

/-- Whether the text holds nothing but white space. -/
def isBlank (text : String) : Bool :=
  text.toList.all Unicode.isWhiteSpace

end ComponentAtlas.Text
