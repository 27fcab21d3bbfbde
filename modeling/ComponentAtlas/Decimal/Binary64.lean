import ComponentAtlas.Decimal.Power

/-!
# Doubles as exact binary numbers

A finite double is a sign and a magnitude `significand * 2 ^ power`. Its neighbours lie at equal
distances above and below, except at a power of two, where the one below is twice as near.
-/

namespace ComponentAtlas

/-- The three fields of a double. -/
structure Binary64 where
  negative : Bool
  /-- The biased exponent, below 2048. -/
  biased : Nat
  /-- The bits after the binary point, below 2 ^ 52. -/
  fraction : Nat
  deriving DecidableEq

namespace Binary64

/-- Splits the bit pattern of a double into its fields. -/
def ofFloat (x : Float) : Binary64 :=
  let bits := x.toBits.toNat
  { negative := bits / twoTo 63 = 1
    biased := bits / twoTo 52 % 2048
    fraction := bits % twoTo 52 }

/-- The bits of the magnitude, the implicit leading one of a normal number included. -/
def significand (b : Binary64) : Nat :=
  if b.biased = 0 then b.fraction else twoTo 52 + b.fraction

/-- The power of two that the significand counts. -/
def power (b : Binary64) : Int :=
  (max b.biased 1 : Nat) - 1075

/-- Whether the neighbour below is half as far away as the one above. -/
def nearBelow (b : Binary64) : Bool :=
  b.fraction = 0 && 1 < b.biased

/-- Whether the double is NaN. -/
def isNaN (b : Binary64) : Bool :=
  b.biased = 2047 && b.fraction ≠ 0

/-- Whether the double is one of the infinities. -/
def isInfinite (b : Binary64) : Bool :=
  b.biased = 2047 && b.fraction = 0

end Binary64

end ComponentAtlas
