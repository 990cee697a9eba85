import TwoWaySql.Binary64.Shortest

/-!
# Writing numbers

Two notations of binary64 numbers. Messages write every digit in its place. Stored documents
keep a mark that the number is not an integer, and write very large and very small numbers with
an exponent.
-/
namespace TwoWaySql

namespace Decimal

/-- The digits in their places: no exponent, and no point unless digits follow it. -/
def positional (d : Decimal) : Text :=
  let digits := Text.ofNat d.digits
  if 0 ≤ d.exponent then digits ++ List.replicate d.exponent.toNat '0'
  else
    let places := (-d.exponent).toNat
    let padded := List.replicate (places + 1 - digits.length) '0' ++ digits
    padded.take (padded.length - places) ++ '.' :: padded.drop (padded.length - places)

/-- The power of ten of the first digit. -/
def leading (d : Decimal) : Int := d.exponent + ((Text.ofNat d.digits).length : Int) - 1

/-- One digit, the others after a point, and the signed power of ten. -/
def scientific (d : Decimal) : Text :=
  let power : Text := (if d.leading < 0 then '-' else '+') :: Text.ofNat d.leading.natAbs
  match Text.ofNat d.digits with
  | [] => 'e' :: power
  | [c] => c :: 'e' :: power
  | c :: rest => c :: '.' :: rest ++ 'e' :: power

end Decimal

namespace Binary64

/-- The number as messages show it. -/
def describe (x : Binary64) : Text :=
  let sign : Text := if x.isNegative then "-" else ""
  if x.isNaN then "NaN"
  else if x.isInfinite then sign ++ "inf"
  else sign ++ (Decimal.ofBinary64 .up x).positional

/-- The number as a document stores it: positional from `10 ^ -5` to below `10 ^ 16`, with at
least one digit after the point, and with an exponent outside. -/
def stored (x : Binary64) : Text :=
  let sign : Text := if x.isNegative then "-" else ""
  let d := Decimal.ofBinary64 .even x
  if x.isZero then sign ++ "0.0"
  else if d.leading < -5 ∨ 16 ≤ d.leading then sign ++ d.scientific
  else if 0 ≤ d.exponent then sign ++ d.positional ++ ".0"
  else sign ++ d.positional

end Binary64

end TwoWaySql
