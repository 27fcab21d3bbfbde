import ComponentAtlas.Decimal.Shortest

/-!
# Number layouts

A layout fixes how the shortest decimal of a double is written: when positionally, when with an
exponent, and what stands for the values that are no numbers.
-/

namespace ComponentAtlas

/-- The decisions of a number format. -/
structure NumberLayout where
  /-- The range of positions of the decimal point that are written positionally, counted from the
  first digit; `none` writes every number positionally. -/
  positional : Option (Int × Int)
  /-- Whether an integral number keeps a zero after the point. -/
  keepsPoint : Bool
  /-- The sign of a positive exponent. -/
  exponentPlus : String
  nan : String
  infinity : String
  negativeInfinity : String
  tie : Tie

namespace NumberLayout

/-- The layout of messages and source text: always positional. -/
def plain : NumberLayout :=
  { positional := none, keepsPoint := false, exponentPlus := "", nan := "NaN", infinity := "inf",
    negativeInfinity := "-inf", tie := .up }

/-- The layout of JSON, which has no form for NaN and the infinities. -/
def json : NumberLayout :=
  { positional := some (-4, 16), keepsPoint := true, exponentPlus := "+", nan := "null",
    infinity := "null", negativeInfinity := "null", tie := .even }

/-- The layout of YAML. -/
def yaml : NumberLayout :=
  { positional := some (-4, 16), keepsPoint := true, exponentPlus := "", nan := ".nan",
    infinity := ".inf", negativeInfinity := "-.inf", tie := .even }

/-- A text of zeros. -/
def zeros (count : Nat) : String :=
  "".pushn '0' count

/-- The digits with a decimal point after the given number of them. -/
def withPoint (layout : NumberLayout) (digits : List Char) (point : Int) : String :=
  let count := digits.length
  if point ≤ 0 then
    "0." ++ zeros (-point).toNat ++ String.ofList digits
  else if point.toNat < count then
    String.ofList (digits.take point.toNat) ++ "." ++ String.ofList (digits.drop point.toNat)
  else
    String.ofList digits ++ zeros (point.toNat - count) ++ if layout.keepsPoint then ".0" else ""

/-- The digits with one of them before the point, and the power of ten. -/
def withExponent (layout : NumberLayout) (digits : List Char) (point : Int) : String :=
  let exponent := point - 1
  let mantissa := String.ofList (digits.take 1) ++
    if digits.length ≤ 1 then "" else "." ++ String.ofList (digits.drop 1)
  mantissa ++ "e" ++ (if exponent < 0 then "" else layout.exponentPlus) ++ toString exponent

/-- The text of a decimal without its sign. -/
def decimalText (layout : NumberLayout) (decimal : Decimal) : String :=
  let digits := Nat.toDigits 10 decimal.digits
  let point := digits.length + decimal.exponent
  match layout.positional with
  | none => layout.withPoint digits point
  | some (low, high) =>
    if low ≤ point ∧ point ≤ high then layout.withPoint digits point
    else layout.withExponent digits point

/-- The text of a double. -/
def text (layout : NumberLayout) (x : Float) : String :=
  let b := Binary64.ofFloat x
  if b.isNaN then layout.nan
  else if b.isInfinite then if b.negative then layout.negativeInfinity else layout.infinity
  else
    let magnitude :=
      if b.significand = 0 then (if layout.keepsPoint then "0.0" else "0")
      else layout.decimalText (b.shortest layout.tie)
    if b.negative then "-" ++ magnitude else magnitude

end NumberLayout

end ComponentAtlas
