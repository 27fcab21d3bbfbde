import ComponentAtlas.Decimal.Power
import ComponentAtlas.Decimal.Reading
import ComponentAtlas.Document
import ComponentAtlas.Unicode.Runs

/-!
# Lexemes of TOML

Strings, numbers and times. Every reader takes the characters that are left and returns those that it
leaves; `none` means that the text is refused.
-/

namespace ComponentAtlas.Toml

/-- Spaces and tabs. -/
def isBlank (c : Char) : Bool :=
  c = ' ' || c = '\t'

/-- The characters of comments and literal strings. -/
def isText (c : Char) : Bool :=
  c = '\t' || (0x20 ≤ c.toNat && c.toNat ≠ 0x7f)

/-- What is left after blanks. -/
def skipBlanks (rest : List Char) : List Char :=
  rest.dropWhile isBlank

/-- What is left after a line break. -/
def newline? : List Char → Option (List Char)
  | '\n' :: rest | '\r' :: '\n' :: rest => some rest
  | _ => none

/-- What is left after a comment, if there is one. -/
def skipComment (rest : List Char) : List Char :=
  match rest with
  | '#' :: comment => comment.dropWhile isText
  | _ => rest

/-- What is left after blanks, a comment and the end of a line. -/
def finishLine? (rest : List Char) : Option (List Char) :=
  match skipComment (skipBlanks rest) with
  | [] => some []
  | rest => newline? rest

/-- What is left after blanks, comments and line breaks. -/
def skipLines : (fuel : Nat) → List Char → List Char
  | 0, rest => rest
  | fuel + 1, rest =>
    let rest := skipBlanks rest
    match newline? (skipComment rest) with
    | some rest => skipLines fuel rest
    | none => rest

/-- The character that hexadecimal digits name. -/
def hexChar? (digits : List Char) : Option Char :=
  (digits.foldlM (fun total c => (Unicode.hexDigit? c.toLower).map (16 * total + ·)) 0).bind
    fun code =>
      if code < 0xd800 ∨ 0xdfff < code ∧ code < 0x110000 then some (Char.ofNat code) else none

/-- The character that a letter after a backslash stands for. -/
def escaped? (c : Char) : Option Char :=
  match c with
  | 'b' => some '\x08'
  | 't' => some '\t'
  | 'n' => some '\n'
  | 'f' => some '\x0c'
  | 'r' => some '\r'
  | '"' => some '"'
  | '\\' => some '\\'
  | _ => none

/-- Puts a character before a string that is being read. -/
def consChar (c : Char) (read : Option (List Char × List Char)) : Option (List Char × List Char) :=
  read.map fun (chars, rest) => (c :: chars, rest)

/-- A string of one line behind its double quote. -/
def basicString? : List Char → Option (List Char × List Char)
  | [] => none
  | '"' :: rest => some ([], rest)
  | '\\' :: 'u' :: a :: b :: c :: d :: rest =>
    (hexChar? [a, b, c, d]).bind fun value => consChar value (basicString? rest)
  | '\\' :: 'U' :: a :: b :: c :: d :: e :: f :: g :: h :: rest =>
    (hexChar? [a, b, c, d, e, f, g, h]).bind fun value => consChar value (basicString? rest)
  | '\\' :: c :: rest => (escaped? c).bind fun value => consChar value (basicString? rest)
  | c :: rest => if isText c && c ≠ '\\' then consChar c (basicString? rest) else none

/-- Whether nothing but blanks stands before the end of the line. -/
def endsLine (rest : List Char) : Bool :=
  (newline? (skipBlanks rest)).isSome

/-- A string of several lines behind its three double quotes. Behind a backslash at the end of a line,
blanks and line breaks are skipped. -/
def basicLines? (skipping : Bool) : List Char → Option (List Char × List Char)
  | [] => none
  | '"' :: '"' :: '"' :: '"' :: '"' :: rest => some (['"', '"'], rest)
  | '"' :: '"' :: '"' :: '"' :: rest => some (['"'], rest)
  | '"' :: '"' :: '"' :: rest => some ([], rest)
  | '\r' :: '\n' :: rest =>
    if skipping then basicLines? true rest else consChar '\n' (basicLines? false rest)
  | '\n' :: rest =>
    if skipping then basicLines? true rest else consChar '\n' (basicLines? false rest)
  | '\\' :: 'u' :: a :: b :: c :: d :: rest =>
    (hexChar? [a, b, c, d]).bind fun value => consChar value (basicLines? false rest)
  | '\\' :: 'U' :: a :: b :: c :: d :: e :: f :: g :: h :: rest =>
    (hexChar? [a, b, c, d, e, f, g, h]).bind fun value => consChar value (basicLines? false rest)
  | '\\' :: c :: rest =>
    if endsLine (c :: rest) then
      if c = '\n' ∨ isBlank c then basicLines? true rest
      else match rest with
        | _ :: rest => basicLines? true rest
        | [] => none
    else (escaped? c).bind fun value => consChar value (basicLines? false rest)
  | c :: rest =>
    if skipping && isBlank c then basicLines? true rest
    else if isText c && c ≠ '\\' then consChar c (basicLines? false rest)
    else none

/-- A string of one line behind its apostrophe. -/
def literalString? : List Char → Option (List Char × List Char)
  | [] => none
  | '\'' :: rest => some ([], rest)
  | c :: rest => if isText c then consChar c (literalString? rest) else none

/-- A string of several lines behind its three apostrophes. -/
def literalLines? : List Char → Option (List Char × List Char)
  | [] => none
  | '\'' :: '\'' :: '\'' :: '\'' :: '\'' :: rest => some (['\'', '\''], rest)
  | '\'' :: '\'' :: '\'' :: '\'' :: rest => some (['\''], rest)
  | '\'' :: '\'' :: '\'' :: rest => some ([], rest)
  | '\r' :: '\n' :: rest | '\n' :: rest => consChar '\n' (literalLines? rest)
  | c :: rest => if isText c then consChar c (literalLines? rest) else none

/-- What is left after a line break right behind the quotes of a string of several lines. -/
def skipFirstBreak (rest : List Char) : List Char :=
  (newline? rest).getD rest

/-- A string of any kind. -/
def string? (rest : List Char) : Option (List Char × List Char) :=
  match rest with
  | '"' :: '"' :: '"' :: rest => basicLines? false (skipFirstBreak rest)
  | '"' :: rest => basicString? rest
  | '\'' :: '\'' :: '\'' :: rest => literalLines? (skipFirstBreak rest)
  | '\'' :: rest => literalString? rest
  | _ => none

/-- Digits with underscores between them, without these. -/
def groupedDigits? (isDigit : Char → Bool) : List Char → Option (List Char)
  | [] => none
  | [c] => if isDigit c then some [c] else none
  | c :: '_' :: rest => if isDigit c then (groupedDigits? isDigit rest).map (c :: ·) else none
  | c :: rest => if isDigit c then (groupedDigits? isDigit rest).map (c :: ·) else none

/-- The value of digits in a radix. -/
def digitsValue (radix : Nat) (digits : List Char) : Nat :=
  digits.foldl (fun total c => radix * total + (Unicode.hexDigit? c.toLower).getD 0) 0

/-- Splits off a sign: whether it is a minus. -/
def splitSign : List Char → Bool × List Char
  | '-' :: rest => (true, rest)
  | '+' :: rest => (false, rest)
  | rest => (false, rest)

/-- Decimal digits without a needless zero at the front. -/
def wholeDigits? (text : List Char) : Option (List Char) :=
  (groupedDigits? Char.isDigit text).filter fun digits => digits.length = 1 || digits.head? ≠ some '0'

/-- An integer in the range of 64-bit words: decimal with a sign, or in another radix without one. -/
def integer? (text : List Char) : Option Int :=
  let isHex (c : Char) : Bool := (Unicode.hexDigit? c.toLower).isSome
  let value : Option Int := match text with
    | '0' :: 'x' :: digits => (groupedDigits? isHex digits).map fun d => digitsValue 16 d
    | '0' :: 'o' :: digits =>
      (groupedDigits? (fun c => '0' ≤ c && c ≤ '7') digits).map fun d => digitsValue 8 d
    | '0' :: 'b' :: digits =>
      (groupedDigits? (fun c => c = '0' || c = '1') digits).map fun d => digitsValue 2 d
    | _ =>
      let (negative, digits) := splitSign text
      (wholeDigits? digits).map fun d =>
        if negative then -(digitsValue 10 d : Int) else digitsValue 10 d
  value.filter (fitsSigned 64)

/-- A double: a decimal with a fraction or an exponent, an infinity, or NaN. One that is too large is
refused. -/
def float? (text : List Char) : Option Float :=
  let (negative, unsigned) := splitSign text
  let infinity : Float := 1 / 0
  if unsigned = "inf".toList then some (if negative then -infinity else infinity)
  else if unsigned = "nan".toList then some (0 / 0)
  else
    let whole := unsigned.takeWhile fun c => c.isDigit || c = '_'
    let tail := unsigned.dropWhile fun c => c.isDigit || c = '_'
    let isFraction := tail.head? = some '.'
    let fraction := if isFraction then (tail.drop 1).takeWhile fun c => c.isDigit || c = '_' else []
    let tail := if isFraction then (tail.drop 1).dropWhile fun c => c.isDigit || c = '_' else tail
    let exponentFits := match tail with
      | [] => isFraction
      | c :: exponent =>
        (c = 'e' || c = 'E') && (groupedDigits? Char.isDigit (splitSign exponent).2).isSome
    let fits := (wholeDigits? whole).isSome && exponentFits &&
      (!isFraction || (groupedDigits? Char.isDigit fraction).isSome)
    if !fits then none
    else
      ((DecimalText.ofText? (String.ofList (text.filter (· ≠ '_')))).map DecimalText.nearest).filter
        fun value => !(value == infinity)

/-- The number that two digits write. -/
def twoDigits? (a b : Char) : Option Nat :=
  if a.isDigit && b.isDigit then some (digitsValue 10 [a, b]) else none

/-- The days of a month. -/
def daysIn (year month : Nat) : Nat :=
  if month = 2 then if year % 4 = 0 ∧ (year % 100 ≠ 0 ∨ year % 400 = 0) then 29 else 28
  else if month = 4 ∨ month = 6 ∨ month = 9 ∨ month = 11 then 30
  else 31

/-- What is left after a date. -/
def skipDate? : List Char → Option (List Char)
  | a :: b :: c :: d :: '-' :: e :: f :: '-' :: g :: h :: rest => do
    let year := 100 * (← twoDigits? a b) + (← twoDigits? c d)
    let month ← twoDigits? e f
    let day ← twoDigits? g h
    if 1 ≤ month ∧ month ≤ 12 ∧ 1 ≤ day ∧ day ≤ daysIn year month then some rest else none
  | _ => none

/-- What is left after a time of day. -/
def skipTime? : List Char → Option (List Char)
  | a :: b :: ':' :: c :: d :: ':' :: e :: f :: rest => do
    let hour ← twoDigits? a b
    let minute ← twoDigits? c d
    let second ← twoDigits? e f
    if 23 < hour ∨ 59 < minute ∨ 60 < second then none
    else match rest with
      | '.' :: digit :: rest =>
        if digit.isDigit then some (rest.dropWhile Char.isDigit) else none
      | '.' :: [] => none
      | _ => some rest
  | _ => none

/-- Whether a text is an offset from universal time, or empty. -/
def isOffset : List Char → Bool
  | [] => true
  | [c] => c = 'Z' || c = 'z'
  | [sign, a, b, ':', c, d] =>
    (sign = '+' || sign = '-') && (twoDigits? a b).any (· < 24) && (twoDigits? c d).any (· < 60)
  | _ => false

/-- Whether a text is a date, a time or both. -/
def isDateTime (text : List Char) : Bool :=
  match skipDate? text with
  | some [] => true
  | some (separator :: rest) =>
    (separator = 'T' || separator = 't' || separator = ' ') && (skipTime? rest).any isOffset
  | none => (skipTime? text).any List.isEmpty

/-- The characters of numbers and times. -/
def isNumberChar (c : Char) : Bool :=
  c.isAlphanum || "_+-.:".toList.contains c

/-- A number, a time or a truth value, and what is left after it. A time may stand apart from its date
by a space; dates and times become tables of a single text, which nothing asks for. -/
def atom? (rest : List Char) : Option (Document × List Char) :=
  let first := rest.takeWhile isNumberChar
  let left := rest.dropWhile isNumberChar
  let second := (left.drop 1).takeWhile isNumberChar
  let isSpaced := (skipDate? first).any List.isEmpty && left.head? == some ' ' &&
    second.head?.any Char.isDigit
  let (text, left) : List Char × List Char :=
    if isSpaced then (first ++ ' ' :: second, (left.drop 1).dropWhile isNumberChar)
    else (first, left)
  let document : Option Document :=
    if text = "true".toList then some (.bool true)
    else if text = "false".toList then some (.bool false)
    else if isDateTime text then some (.table [(.text "$time", .text (String.ofList text))])
    else match integer? text with
      | some value => some (.integer value)
      | none => (float? text).map .float
  document.map fun document => (document, left)

end ComponentAtlas.Toml
