import TwoWaySql.Binary64.Basic

/-!
# Rounding to binary64

Every operation is the exact rational result rounded once, to the nearest number and a half to
the even neighbour. A result beyond the largest finite number becomes infinite.
-/
namespace TwoWaySql.Binary64

/-- The natural number nearest to `num / den`, a half going to the even neighbour. -/
def roundHalfEven (num den : Nat) : Nat :=
  if 2 * (num % den) < den || (2 * (num % den) == den && num / den % 2 == 0) then num / den
  else num / den + 1

/-- The greatest power of two that is at most `num / den`, as an exponent. -/
def floorLog2 (num den : Nat) : Int :=
  let guess : Int := (num.log2 : Int) - den.log2
  if den * Nat.pow 2 guess.toNat ≤ num * Nat.pow 2 (-guess).toNat then guess else guess - 1

/-- The number nearest to `± num / den`. -/
def ofRatio (negative : Bool) (num den : Nat) : Binary64 :=
  if num = 0 then ofMagnitude negative 0
  else
    let q := max (floorLog2 num den - 52) (-1074)
    let m := roundHalfEven (num * Nat.pow 2 (-q).toNat) (den * Nat.pow 2 q.toNat)
    ofMagnitude negative (min ((q + 1074).toNat * exponentWeight + m) infiniteMagnitude)

/-- The number nearest to an integer. -/
def ofInt (i : Int) : Binary64 := ofRatio (i < 0) i.natAbs 1

/-- The number nearest to a power of ten. -/
def powerOfTen (n : Nat) : Binary64 := ofRatio false (Nat.pow 10 n) 1

/-- The rounded product of two finite numbers. -/
def mul (x y : Binary64) : Binary64 :=
  ofRatio (x.isNegative != y.isNegative) (x.ratio.1 * y.ratio.1) (x.ratio.2 * y.ratio.2)

/-- The rounded quotient of two finite numbers, the second not a zero. -/
def div (x y : Binary64) : Binary64 :=
  ofRatio (x.isNegative != y.isNegative) (x.ratio.1 * y.ratio.2) (x.ratio.2 * y.ratio.1)

/-- The binary64 number with the value of a binary32 number. A NaN keeps its sign and payload
and becomes quiet. -/
def ofBinary32 (bits : UInt32) : Binary64 :=
  let magnitude := bits.toNat % 0x80000000
  let negative : Bool := 0x80000000 ≤ bits.toNat
  let field := magnitude / 0x800000
  let fraction := magnitude % 0x800000
  if field = 255 then
    if fraction = 0 then ofMagnitude negative infiniteMagnitude
    else ofMagnitude negative
      (infiniteMagnitude + quietWeight + fraction % 0x400000 * Nat.pow 2 29)
  else if field = 0 then ofRatio negative fraction (Nat.pow 2 149)
  else ofRatio negative ((0x800000 + fraction) * Nat.pow 2 (field - 150)) (Nat.pow 2 (150 - field))

end TwoWaySql.Binary64
