import ComponentAtlas.Decimal.Power

/-!
# Reading decimals

Two readings of a decimal text as a double. The nearest double to the exact value is what data
files other than JSON and numbers in source text mean. The reading of JSON numbers keeps as many
leading digits as fit into a word and scales them by one rounded multiplication or division.
-/

namespace ComponentAtlas

/-- A decimal number as written: its sign, the digits before and after the point, and the power of
ten. -/
structure DecimalText where
  negative : Bool
  whole : List Nat
  fraction : List Nat
  exponent : Int
  deriving DecidableEq, Inhabited

namespace DecimalText

/-- The value of a list of decimal digits. -/
def value (digits : List Nat) : Nat :=
  digits.foldl (fun total digit => 10 * total + digit) 0

/-- The value of a digit character. -/
def digit? (c : Char) : Option Nat :=
  if '0' ≤ c ∧ c ≤ '9' then some (c.toNat - '0'.toNat) else none

/-- The leading digits of a text and the rest of it. -/
def spanDigits : List Char → List Nat × List Char
  | [] => ([], [])
  | c :: rest =>
    match digit? c with
    | some d => (d :: (spanDigits rest).1, (spanDigits rest).2)
    | none => ([], c :: rest)

/-- Reads the part after the letter `e`: an optional sign and at least one digit. -/
def readExponent? (text : List Char) : Option (Int × List Char) :=
  let (negative, unsigned) := match text with
    | '+' :: rest => (false, rest)
    | '-' :: rest => (true, rest)
    | rest => (false, rest)
  match spanDigits unsigned with
  | ([], _) => none
  | (digits, rest) => some (if negative then -(value digits : Int) else value digits, rest)

/-- The nearest double, with exact ties to the even neighbour; an infinity when the value is out of
range. -/
def nearest (number : DecimalText) : Float :=
  let mantissa := value (number.whole ++ number.fraction)
  let exponent := number.exponent - number.fraction.length
  let size : Int := mantissa.log2 * 30103 / 100000 + exponent
  let magnitude : Float :=
    if mantissa = 0 ∨ size < -400 then 0
    else if 400 < size then 1 / 0
    else if exponent < 0 then Float.ofScientific mantissa true (-exponent).toNat
    else Float.ofScientific mantissa false exponent.toNat
  if number.negative then -magnitude else magnitude

/-- Reads a decimal that may lack digits on one side of the point: `1`, `1.`, `.5`, `1e3`. -/
def ofText? (text : String) : Option DecimalText :=
  let (negative, unsigned) := match text.toList with
    | '+' :: rest => (false, rest)
    | '-' :: rest => (true, rest)
    | rest => (false, rest)
  let (whole, afterWhole) := spanDigits unsigned
  let (fraction, afterFraction) := match afterWhole with
    | '.' :: rest => spanDigits rest
    | rest => ([], rest)
  if whole.isEmpty && fraction.isEmpty then none
  else match afterFraction with
    | [] => some ⟨negative, whole, fraction, 0⟩
    | c :: rest =>
      if c = 'e' ∨ c = 'E' then
        match readExponent? rest with
        | some (exponent, []) => some ⟨negative, whole, fraction, exponent⟩
        | _ => none
      else none

/-- The largest significand that the word reading keeps. -/
def wordLimit : Nat := twoTo 64 - 1

/-- Takes leading digits while the value stays within a word; the rest of the digits is returned. -/
def takeWord (significand : Nat) : List Nat → Nat × List Nat
  | [] => (significand, [])
  | digit :: rest =>
    if 10 * significand + digit ≤ wordLimit then takeWord (10 * significand + digit) rest
    else (significand, digit :: rest)

/-- Scales a double by a power of ten in steps of at most 308; `none` when it overflows. -/
def scale (fuel : Nat) (x : Float) (exponent : Int) : Option Float :=
  match fuel with
  | 0 => some x
  | fuel + 1 =>
    if exponent.natAbs ≤ 308 then
      let power := Float.ofScientific 1 false exponent.natAbs
      if 0 ≤ exponent then
        let scaled := x * power
        if scaled.isInf then none else some scaled
      else some (x / power)
    else if x == 0 then some x
    else if 0 ≤ exponent then none
    else scale fuel (x / Float.ofScientific 1 false 308) (exponent + 308)

/-- The double of a JSON number: its leading digits as far as they fit into a word, rounded, then
scaled. `none` when the number is out of range. -/
def scaled? (number : DecimalText) : Option Float :=
  let (head, dropped) := takeWord 0 number.whole
  let (significand, ignored) := takeWord head number.fraction
  let kept : Int := number.fraction.length - ignored.length
  let exponent := dropped.length - kept + number.exponent
  let limit : Int := twoTo 31 - 1
  let bounded := max (-limit - 1) (min limit exponent)
  let start := Float.ofNat significand
  let magnitude :=
    if significand = 0 then some start
    else if bounded < -2000 then some 0
    else scale 8 start bounded
  magnitude.map fun x => if number.negative then -x else x

end DecimalText

end ComponentAtlas
