import TwoWaySql.Binary64.Rounding
import TwoWaySql.Json.Basic

/-!
# Numbers in JSON text

Digits are gathered into an unsigned 64-bit significand. Digits that no longer fit only move the
exponent, or are dropped after the point. The number is then the significand, rounded, times or
over one power of ten: a single rounded step, exact whenever both factors are.
-/
namespace TwoWaySql.Json

/-- The greatest significand, `2 ^ 64 - 1`. -/
def maxSignificand : Nat := 0xffffffffffffffff

/-- Whether one more digit still fits. -/
def fits (significand : Nat) (c : Char) : Bool :=
  10 * significand + (c.toNat - 48) ≤ maxSignificand

/-- The ASCII digits that a text starts with, and the rest. -/
def spanDigits (t : Text) : Text × Text := t.span Text.isAsciiDigit

/-- Takes digits into a significand until one does not fit; the others are counted. -/
def gather (significand : Nat) : Text → Nat × Nat
  | [] => (significand, 0)
  | c :: rest =>
    if fits significand c then gather (10 * significand + (c.toNat - 48)) rest
    else (significand, rest.length + 1)

/-- The absolute value `significand · 10 ^ exponent`, by one rounded multiplication or division.
Below `10 ^ -308` the division is split; there is no number beyond the finite range. -/
def scaled? (x : Binary64) (exponent : Int) : Option Binary64 :=
  if exponent < -308 then
    if x.isZero then some x else scaled? (x.div (Binary64.powerOfTen 308)) (exponent + 308)
  else if exponent < 0 then some (x.div (Binary64.powerOfTen (-exponent).toNat))
  else if exponent ≤ 308 then
    let y := x.mul (Binary64.powerOfTen exponent.toNat)
    if y.isInfinite then none else some y
  else if x.isZero then some x
  else none
termination_by (-exponent).toNat
decreasing_by omega

/-- The exponent part of a number, if it has one: the signed power and the rest. -/
def readExponent : Text → Option (Int × Text)
  | c :: rest =>
    if c = 'e' ∨ c = 'E' then
      let (negative, rest) : Bool × Text :=
        match rest with
        | '-' :: rest => (true, rest)
        | '+' :: rest => (false, rest)
        | rest => (false, rest)
      let (digits, rest) := spanDigits rest
      if digits.isEmpty then none
      else
        let power : Int := Text.toNat digits
        some (if negative then -power else power, rest)
    else some (0, c :: rest)
  | [] => some (0, [])

/-- The number of the given sign with an integer part, a fraction part and a power of ten. -/
def fraction? (negative : Bool) (whole fraction : Text) (power : Int) : Option Json := do
  let (significand, extra) := gather 0 whole
  let (significand, dropped) := gather significand fraction
  let places : Int := (fraction.length : Int) - dropped
  let x ← scaled? (Binary64.ofInt significand) (extra - places + power)
  some (float (if negative then Binary64.ofMagnitude true x.magnitude else x))

/-- An integer where 64 bits hold it, with a sign bit only if it is negative. Negative zero is no
integer. -/
def integer? (negative : Bool) (whole : Text) : Option Json :=
  let n := Text.toNat whole
  if negative then
    if n = 0 ∨ Int64.minValue.toInt.natAbs < n then fraction? true whole [] 0
    else some (int (-n))
  else if n ≤ maxSignificand then some (int n)
  else fraction? false whole [] 0

/-- Reads a number at the start of a text. It has no value beyond the finite range. -/
def readNumber (t : Text) : Option (Option Json × Text) := do
  let (negative, t) : Bool × Text :=
    match t with
    | '-' :: rest => (true, rest)
    | t => (false, t)
  let (whole, rest) := spanDigits t
  guard (!whole.isEmpty && !(whole.head? == some '0' && 1 < whole.length))
  match rest with
  | '.' :: rest =>
    let (fraction, rest) := spanDigits rest
    guard (!fraction.isEmpty)
    let (power, rest) ← readExponent rest
    some (fraction? negative whole fraction power, rest)
  | c :: _ =>
    if c = 'e' ∨ c = 'E' then
      let (power, rest) ← readExponent rest
      some (fraction? negative whole [] power, rest)
    else some (integer? negative whole, rest)
  | [] => some (integer? negative whole, [])

end TwoWaySql.Json
