/-!
# Binary floating point numbers

A number of the IEEE 754 format binary64 is its 64 bits. A finite one is `m · 2 ^ q` up to its
sign; every arithmetic here goes through that pair in exact natural numbers.
-/
namespace TwoWaySql

/-- A binary64 number, NaNs and both zeros included. -/
structure Binary64 where
  /-- The sign bit, eleven bits of exponent and 52 bits of fraction, from the top. -/
  bits : UInt64
deriving DecidableEq, Repr

namespace Binary64

/-- The weight of the sign bit, `2 ^ 63`. -/
abbrev signWeight : Nat := 0x8000000000000000

/-- The weight of the lowest bit of the exponent, `2 ^ 52`; also the bit that a significand has
above its fraction. -/
abbrev exponentWeight : Nat := 0x10000000000000

/-- The weight of the highest bit of the fraction, `2 ^ 51`, which marks a quiet NaN. -/
abbrev quietWeight : Nat := 0x8000000000000

/-- The bits below the sign, as a number. -/
def magnitude (x : Binary64) : Nat := x.bits.toNat % signWeight

/-- Whether the sign bit is set. -/
def isNegative (x : Binary64) : Bool := signWeight ≤ x.bits.toNat

/-- The magnitude of the infinities, above which the NaNs lie. -/
def infiniteMagnitude : Nat := 2047 * exponentWeight

/-- The number with the given sign and magnitude. -/
def ofMagnitude (negative : Bool) (magnitude : Nat) : Binary64 :=
  ⟨UInt64.ofNat (if negative then signWeight + magnitude else magnitude)⟩

/-- Whether the bits denote no number. -/
def isNaN (x : Binary64) : Bool := infiniteMagnitude < x.magnitude

/-- Whether the number is one of the two infinities. -/
def isInfinite (x : Binary64) : Bool := x.magnitude == infiniteMagnitude

/-- Whether the number is one of the two zeros. -/
def isZero (x : Binary64) : Bool := x.magnitude == 0

/-- The natural number `m` of a finite number `± m · 2 ^ q`. -/
def significand (x : Binary64) : Nat :=
  if x.magnitude < exponentWeight then x.magnitude
  else exponentWeight + x.magnitude % exponentWeight

/-- The power `q` of a finite number `± m · 2 ^ q`. -/
def power (x : Binary64) : Int :=
  if x.magnitude < exponentWeight then -1074
  else ((x.magnitude / exponentWeight : Nat) : Int) - 1075

/-- The absolute value of a finite number as a numerator and a denominator. -/
def ratio (x : Binary64) : Nat × Nat :=
  (x.significand * Nat.pow 2 x.power.toNat, Nat.pow 2 (-x.power).toNat)

end Binary64

end TwoWaySql
