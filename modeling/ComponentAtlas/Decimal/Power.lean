/-!
# Powers

Powers of two and ten, and the integers that fit into a number of bits.
-/

namespace ComponentAtlas

/-- A power of two. -/
def twoTo (exponent : Nat) : Nat := Nat.pow 2 exponent

/-- A power of ten. -/
def tenTo (exponent : Nat) : Nat := Nat.pow 10 exponent

/-- Whether an integer with a sign fits into a number of bits, one of which is for the sign. -/
def fitsSigned (bits : Nat) (n : Int) : Bool :=
  -(twoTo (bits - 1) : Int) ≤ n && n < twoTo (bits - 1)

/-- Whether an integer fits into a number of bits with or without a sign. -/
def fitsBits (bits : Nat) (n : Int) : Bool :=
  -(twoTo (bits - 1) : Int) ≤ n && n < twoTo bits

end ComponentAtlas
