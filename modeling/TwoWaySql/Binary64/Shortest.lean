import TwoWaySql.Binary64.Basic
import TwoWaySql.Text.Basic

/-!
# The fewest digits that read back

The reals that round to a positive number form an interval around it. Its shortest decimal form
is taken from the coarsest decimal grid that has a point in that interval, and there from the
nearest point.
-/
namespace TwoWaySql

/-- The decimal number `digits · 10 ^ exponent`. -/
structure Decimal where
  /-- The digits, read as one natural number. -/
  digits : Nat
  /-- The power of ten of the last digit. -/
  exponent : Int
deriving DecidableEq, Repr

/-- Which of two equally near decimals is chosen. -/
inductive Tie where
  /-- The greater one. -/
  | up
  /-- The one with an even last digit. -/
  | even
deriving DecidableEq, Repr

namespace Decimal

/-- Whether the decimal `c · 10 ^ k` is below (`lt`), at or above (`gt`) `m · 2 ^ q`. -/
def compareBinary (c : Nat) (k : Int) (m : Nat) (q : Int) : Ordering :=
  compare (c * Nat.pow 10 k.toNat * Nat.pow 2 (-q).toNat)
    (m * Nat.pow 2 q.toNat * Nat.pow 10 (-k).toNat)

/-- The quotient of `m · 2 ^ q` by `10 ^ k`, rounded down. -/
def floorDiv (m : Nat) (q k : Int) : Nat :=
  m * Nat.pow 2 q.toNat * Nat.pow 10 (-k).toNat / (Nat.pow 2 (-q).toNat * Nat.pow 10 k.toNat)

end Decimal

namespace Binary64

/-- Whether the decimal `c · 10 ^ k` rounds to the positive finite number `x`: it lies between
the midpoints to the neighbours of `x`, which belong to `x` when its significand is even. -/
def reads (x : Binary64) (c : Nat) (k : Int) : Bool :=
  let m := x.significand
  let q := x.power
  let below : Nat := if m = exponentWeight ∧ -1074 < q then 4 * m - 1 else 4 * m - 2
  let lower := Decimal.compareBinary c k below (q - 2)
  let upper := Decimal.compareBinary c k (4 * m + 2) (q - 2)
  (lower == .gt && upper == .lt) || (m % 2 == 0 && (lower == .eq || upper == .eq))

/-- The point of the grid of multiples of `10 ^ k` that is chosen for `x`, if one reads back. -/
def onGrid? (tie : Tie) (x : Binary64) (k : Int) : Option Decimal :=
  let d := Decimal.floorDiv x.significand x.power k
  if x.reads d k then
    if x.reads (d + 1) k then
      match Decimal.compareBinary (2 * d + 1) k x.significand (x.power + 1) with
      | .lt => some ⟨d + 1, k⟩
      | .gt => some ⟨d, k⟩
      | .eq => if tie = .even ∧ d % 2 = 0 then some ⟨d, k⟩ else some ⟨d + 1, k⟩
    else some ⟨d, k⟩
  else if x.reads (d + 1) k then some ⟨d + 1, k⟩
  else none

/-- The power of ten of the leading digit of a positive finite number. -/
def leadingExponent (x : Binary64) : Int :=
  ((Text.ofNat (Decimal.floorDiv x.significand x.power (-350))).length : Int) - 351

/-- The first grid with a point for `x`, `n` grids being tried from `10 ^ k` downward. -/
def firstOnGrid (tie : Tie) (x : Binary64) (k : Int) : Nat → Decimal
  | 0 => ⟨Decimal.floorDiv x.significand x.power k, k⟩
  | n + 1 =>
    match onGrid? tie x k with
    | some d => d
    | none => firstOnGrid tie x (k - 1) n

end Binary64

namespace Decimal

/-- The same decimal without zeros at the end of its digits, `n` of which are tried. -/
def dropZeros (d : Decimal) : Nat → Decimal
  | 0 => d
  | n + 1 =>
    if d.digits % 10 = 0 then dropZeros ⟨d.digits / 10, d.exponent + 1⟩ n else d

/-- The shortest decimal that rounds to the absolute value of the finite number `x`; seventeen
digits always suffice. -/
def ofBinary64 (tie : Tie) (x : Binary64) : Decimal :=
  if x.isZero then ⟨0, 0⟩
  else (x.firstOnGrid tie x.leadingExponent 18).dropZeros 18

end Decimal

end TwoWaySql
