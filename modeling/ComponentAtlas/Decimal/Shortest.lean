import ComponentAtlas.Decimal.Binary64

/-!
# Shortest decimals

The shortest decimal of a double is the one with the fewest digits among those that round to it.
All decimals that round to a double form an interval around it, which contains its end points
exactly when the significand is even. Fewest digits means the coarsest decimal grid with a point
in the interval, and on that grid only the two neighbours of the double can lie inside.
-/

namespace ComponentAtlas

/-- The decimal `digits * 10 ^ exponent`. -/
structure Decimal where
  digits : Nat
  exponent : Int
  deriving DecidableEq, Inhabited

/-- The neighbour to take when a double lies exactly between two shortest decimals. -/
inductive Tie
  | up
  | even
  deriving DecidableEq

namespace Binary64

/-- The denominator and the factor that make `x * 2 ^ power` and `y * 10 ^ exponent` comparable as
naturals: the former becomes `x * left`, the latter `y * right`. -/
def scales (power exponent : Int) : Nat × Nat :=
  (twoTo power.toNat * tenTo (-exponent).toNat, twoTo (-power).toNat * tenTo exponent.toNat)

/-- The point of the grid of a given exponent that rounds to the double, the nearer one if both
neighbours do. Magnitudes are counted in quarters of the significand's unit. -/
def gridPoint? (b : Binary64) (tie : Tie) (exponent : Int) : Option Decimal :=
  let (left, right) := scales (b.power - 2) exponent
  let value := 4 * b.significand * left
  let high := (4 * b.significand + 2) * left
  let low := (4 * b.significand - if b.nearBelow then 1 else 2) * left
  let inside (point : Nat) : Bool :=
    if b.significand % 2 = 0 then low ≤ point * right && point * right ≤ high
    else low < point * right && point * right < high
  let below := value / right
  let above := below + 1
  let takeAbove : Bool :=
    if !inside below then true
    else if !inside above then false
    else
      let down := value - below * right
      let up := above * right - value
      if up < down then true
      else if down < up then false
      else match tie with
        | .up => true
        | .even => below % 2 = 1
  let point := if takeAbove then above else below
  if inside point then some ⟨point, exponent⟩ else none

/-- The value itself as a decimal. -/
def exactDecimal (b : Binary64) : Decimal :=
  ⟨b.significand * twoTo b.power.toNat * Nat.pow 5 (-b.power).toNat, min b.power 0⟩

/-- An exponent whose power of ten exceeds the magnitude. -/
def gridBound (b : Binary64) : Int :=
  (b.significand.log2 + 1 + b.power) * 30103 / 100000 + 1

/-- The shortest decimal that rounds to a finite double other than zero. -/
def shortest (b : Binary64) (tie : Tie) : Decimal :=
  let exponents := (List.range 20).map fun (step : Nat) => b.gridBound - (step : Int)
  (exponents.findSome? (b.gridPoint? tie)).getD b.exactDecimal

end Binary64

end ComponentAtlas
