import TwoWaySql.Binary64.Rounding
import TwoWaySql.Json.Reader
import TwoWaySql.Toml.Basic

/-!
# TOML numbers

Digits may be grouped by single underscores. Integers are decimal with an optional sign, or
hexadecimal, octal or binary behind a mark without one; they have to fit in 64 bits. A fraction
or an exponent makes a floating point number, which may not be too large to be finite.
-/
namespace TwoWaySql.Toml

/-- The digits of a group of digits without its underscores. -/
def ungroup? (isDigit : Char → Bool) (t : Text) : Option Text :=
  let groups := Text.splitOn '_' t
  if groups.all fun g => !g.isEmpty && g.all isDigit then some groups.flatten else none

/-- The decimal digits of a group. -/
def digits? (t : Text) : Option Text := ungroup? Text.isAsciiDigit t

/-- The decimal digits of a group that does not start with a zero unless it is one. -/
def wholeDigits? (t : Text) : Option Text := do
  let digits ← digits? t
  if digits.head? = some '0' ∧ 1 < digits.length then none else some digits

/-- The sign of a number and what follows it. -/
def sign : Text → Bool × Text
  | '-' :: rest => (true, rest)
  | '+' :: rest => (false, rest)
  | t => (false, t)

/-- The integer, if it fits in 64 bits. -/
def integer? (i : Int) : Option Toml :=
  if Int64.minValue.toInt ≤ i ∧ i ≤ Int64.maxValue.toInt then some (integer (Int64.ofInt i))
  else none

/-- The integer of digits in a base. -/
def ofBase? (base : Nat) (t : Text) : Option Toml := do
  let isDigit (c : Char) : Bool := (Json.hexValue? c).any (· < base)
  let digits ← ungroup? isDigit t
  integer? ((digits.foldl (fun n c => base * n + (Json.hexValue? c).getD 0) 0 : Nat) : Int)

/-- An integer. -/
def readInteger? : Text → Option Toml
  | '0' :: 'x' :: rest => ofBase? 16 rest
  | '0' :: 'o' :: rest => ofBase? 8 rest
  | '0' :: 'b' :: rest => ofBase? 2 rest
  | t => do
    let (negative, rest) := sign t
    let digits ← wholeDigits? rest
    let n : Int := Text.toNat digits
    integer? (if negative then -n else n)

/-- The exponent part of a number: nothing, or a letter and a signed group of digits. -/
def exponent? : Text → Option Int
  | [] => some 0
  | _ :: rest => do
    let (negative, rest) := sign rest
    let n : Int := Text.toNat (← digits? rest)
    some (if negative then -n else n)

/-- The number nearest to `± digits · 10 ^ power`; only a negative one may be infinite. Far
outside the range of floating point numbers the digits no longer matter. -/
def scaled? (negative : Bool) (digits : Text) (power : Int) : Option Toml :=
  let n := Text.toNat digits
  let x : Binary64 :=
    if n = 0 ∨ power + digits.length < -400 then Binary64.ofMagnitude negative 0
    else if 400 + digits.length < power then
      Binary64.ofMagnitude negative Binary64.infiniteMagnitude
    else Binary64.ofRatio negative (n * Nat.pow 10 power.toNat) (Nat.pow 10 (-power).toNat)
  if x.isInfinite && !negative then none else some (float x)

/-- A floating point number in digits. -/
def decimal? (t : Text) : Option Toml := do
  let (negative, rest) := sign t
  let (mantissa, tail) := rest.span fun c => c ≠ 'e' ∧ c ≠ 'E'
  let power ← exponent? tail
  match Text.splitOn '.' mantissa with
  | [whole] =>
    guard !tail.isEmpty
    scaled? negative (← wholeDigits? whole) power
  | [whole, fraction] =>
    let fraction ← digits? fraction
    scaled? negative ((← wholeDigits? whole) ++ fraction) (power - fraction.length)
  | _ => none

/-- A floating point number: digits, `inf` or `nan`. -/
def readFloat? (t : Text) : Option Toml :=
  let (negative, rest) := sign t
  if rest = "inf" then some (float (Binary64.ofMagnitude negative Binary64.infiniteMagnitude))
  else if rest = "nan" then
    some (float
      (Binary64.ofMagnitude negative (Binary64.infiniteMagnitude + Binary64.quietWeight)))
  else decimal? t

end TwoWaySql.Toml
