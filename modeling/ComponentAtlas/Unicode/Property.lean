import ComponentAtlas.Unicode.Category
import ComponentAtlas.Unicode.PropertyTable

/-!
# Code point properties

Properties of single characters: those that texts are trimmed and quoted by, and those that a
pattern may name.
-/

namespace ComponentAtlas.Unicode

/-- White space: the ASCII controls from tab to carriage return, the space, and the separators. -/
def isWhiteSpace (c : Char) : Bool :=
  let code := c.toNat
  (9 ≤ code && code ≤ 13) || code = 0x20 || code = 0x85 || code = 0xa0 || code = 0x1680 ||
    (0x2000 ≤ code && code ≤ 0x200a) || code = 0x2028 || code = 0x2029 || code = 0x202f ||
    code = 0x205f || code = 0x3000

/-- The categories of letters. -/
def letters : List String := ["Lu", "Ll", "Lt", "Lm", "Lo"]

/-- Alphabetic characters that are neither letters nor letter numbers. -/
def otherAlphabeticRanges : Array (Nat × Nat) := readRanges otherAlphabeticTable

/-- Alphabetic characters: letters, letter numbers and some marks and symbols. -/
def isAlphabetic (c : Char) : Bool :=
  hasCategory ("Nl" :: letters) c || inRanges otherAlphabeticRanges c.toNat

/-- Lower case characters that are no lower case letters. -/
def otherLowercaseRanges : Array (Nat × Nat) := readRanges otherLowercaseTable

/-- Lower case characters. -/
def isLowercase (c : Char) : Bool :=
  hasCategory ["Ll"] c || inRanges otherLowercaseRanges c.toNat

/-- Upper case characters that are no upper case letters. -/
def otherUppercaseRanges : Array (Nat × Nat) := readRanges otherUppercaseTable

/-- Upper case characters. -/
def isUppercase (c : Char) : Bool :=
  hasCategory ["Lu"] c || inRanges otherUppercaseRanges c.toNat

/-- Decimal digits of any script. -/
def isDigit (c : Char) : Bool :=
  if c.toNat < 128 then c.isDigit else hasCategory ["Nd"] c

/-- The characters that join letters without being shown. -/
def isJoinControl (c : Char) : Bool :=
  c.toNat = 0x200c || c.toNat = 0x200d

/-- Characters of words: alphabetic ones, marks, digits, connectors and join controls. -/
def isWord (c : Char) : Bool :=
  if c.toNat < 128 then c.isAlphanum || c = '_'
  else isAlphabetic c || hasCategory ["Mn", "Mc", "Me", "Nd", "Pc"] c || isJoinControl c

/-- Combining characters that are neither nonspacing nor enclosing marks. -/
def otherGraphemeExtendRanges : Array (Nat × Nat) := readRanges otherGraphemeExtendTable

/-- Characters that combine with the one before. -/
def isGraphemeExtend (c : Char) : Bool :=
  hasCategory ["Mn", "Me"] c || inRanges otherGraphemeExtendRanges c.toNat

/-- Characters that show as themselves: neither controls nor unassigned, private, or separators
other than the space. -/
def isPrintable (c : Char) : Bool :=
  if c.toNat < 127 then 32 ≤ c.toNat
  else !hasCategory ["Cc", "Cf", "Cs", "Co", "Cn", "Zl", "Zp", "Zs"] c

/-- Characters that may start an identifier. -/
def isIdStart (c : Char) : Bool :=
  (hasCategory ("Nl" :: letters) c && c.toNat ≠ 0x2e2f) ||
    [0x1885, 0x1886, 0x2118, 0x212e, 0x309b, 0x309c].contains c.toNat

/-- Characters that may continue an identifier. -/
def isIdContinue (c : Char) : Bool :=
  isIdStart c || hasCategory ["Mn", "Mc", "Nd", "Pc"] c ||
    c.toNat = 0xb7 || c.toNat = 0x387 || (0x1369 ≤ c.toNat && c.toNat ≤ 0x1371) ||
    c.toNat = 0x19da

/-- The properties given by a set of ranges, each with its names. -/
def rangeProperties : List (List String × Array (Nat × Nat)) :=
  [(["Math"], readRanges mathTable),
    (["Dash"], readRanges dashTable),
    (["Hex_Digit", "Hex"], readRanges hexDigitTable),
    (["Ideographic", "Ideo"], readRanges ideographicTable),
    (["Unified_Ideograph", "UIdeo"], readRanges unifiedIdeographTable),
    (["Emoji"], readRanges emojiTable),
    (["Emoji_Presentation", "EPres"], readRanges emojiPresentationTable),
    (["Extended_Pictographic", "ExtPict"], readRanges extendedPictographicTable),
    (["Diacritic", "Dia"], readRanges diacriticTable),
    (["Extender", "Ext"], readRanges extenderTable),
    (["Quotation_Mark", "QMark"], readRanges quotationMarkTable),
    (["Terminal_Punctuation", "Term"], readRanges terminalPunctuationTable),
    (["Sentence_Terminal", "STerm"], readRanges sentenceTerminalTable),
    (["Default_Ignorable_Code_Point", "DI"], readRanges defaultIgnorableTable),
    (["Variation_Selector", "VS"], readRanges variationSelectorTable),
    (["Case_Ignorable", "CI"], readRanges caseIgnorableTable)]

/-- The properties given by a rule, each with its names. -/
def ruleProperties : List (List String × (Char → Bool)) :=
  [(["White_Space", "WSpace", "space"], isWhiteSpace),
    (["Alphabetic", "Alpha"], isAlphabetic),
    (["Lowercase", "Lower"], isLowercase),
    (["Uppercase", "Upper"], isUppercase),
    (["Cased"], fun c => isLowercase c || isUppercase c || hasCategory ["Lt"] c),
    (["ASCII_Hex_Digit", "AHex"], fun c =>
      c.isDigit || ('a' ≤ c && c ≤ 'f') || ('A' ≤ c && c ≤ 'F')),
    (["Join_Control", "Join_C"], isJoinControl),
    (["Grapheme_Extend", "Gr_Ext"], isGraphemeExtend),
    (["ID_Start", "IDS"], isIdStart),
    (["ID_Continue", "IDC"], isIdContinue),
    (["XID_Start", "XIDS"], isIdStart),
    (["XID_Continue", "XIDC"], isIdContinue),
    (["Noncharacter_Code_Point", "NChar"], fun c =>
      0xfffe ≤ c.toNat % 0x10000 || (0xfdd0 ≤ c.toNat && c.toNat ≤ 0xfdef)),
    (["Regional_Indicator", "RI"], fun c => 0x1f1e6 ≤ c.toNat && c.toNat ≤ 0x1f1ff),
    (["Pattern_White_Space", "Pat_WS"], fun c =>
      (9 ≤ c.toNat && c.toNat ≤ 13) ||
        [0x20, 0x85, 0x200e, 0x200f, 0x2028, 0x2029].contains c.toNat)]

end ComponentAtlas.Unicode
