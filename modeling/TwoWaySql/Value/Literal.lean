import TwoWaySql.Binary64.Rounding
import TwoWaySql.Value.Basic

/-!
# Literals

A bare argument is a truth value or a decimal number. Digits alone are an integer while it fits
in 64 bits; a point, or too many digits, make a floating point number.
-/
namespace TwoWaySql.Value

/-- The number that digits around at most one point denote, nearest to them. -/
def decimal? (negative : Bool) (digits : Text) : Option Value :=
  match digits.span (· ≠ '.') with
  | (whole, []) => some (float (Binary64.ofRatio negative (Text.toNat whole) 1))
  | (whole, _ :: fraction) =>
    if fraction.contains '.' || (whole.isEmpty && fraction.isEmpty) then none
    else
      some (float (Binary64.ofRatio negative (Text.toNat (whole ++ fraction))
        (Nat.pow 10 fraction.length)))

/-- The value of an unsigned or negative number, given its digits and points. -/
def number? (negative : Bool) (digits : Text) : Option Value :=
  if digits.all Text.isAsciiDigit then
    let i : Int := if negative then -(Text.toNat digits : Int) else Text.toNat digits
    match ofInt i with
    | .ok value => some value
    | .error _ => decimal? negative digits
  else decimal? negative digits

/-- The value of a bare argument. -/
def ofLiteral? (t : Text) : Option Value :=
  if t = "true" then some (bool true)
  else if t = "false" then some (bool false)
  else
    let (negative, digits) : Bool × Text :=
      match t with
      | '-' :: rest => (true, rest)
      | t => (false, t)
    if digits.isEmpty || !digits.all fun c => Text.isAsciiDigit c || c == '.' then none
    else number? negative digits

end TwoWaySql.Value
