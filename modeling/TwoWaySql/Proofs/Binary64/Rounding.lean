import Mathlib.Algebra.Order.Field.Power
import Mathlib.Order.Monotone.Basic
import Mathlib.Tactic.FieldSimp
import Mathlib.Tactic.Linarith
import Mathlib.Tactic.Positivity
import Mathlib.Tactic.Ring
import TwoWaySql.Binary64.Rounding

/-!
# Rounding is correct

In units of `2 ^ -1074` every finite binary64 number is a natural number, and greater magnitudes
stand for greater numbers. So the two neighbours of a rational number are found by its integral
part in the units of its binade, and no other number is nearer than the nearer of these two. A half
goes to the even one, where an infinity counts as the power of two behind the finite numbers.

## Main definitions

* `Binary64.units` — what a magnitude stands for, in units of `2 ^ -1074`.
* `Binary64.value` — the absolute value of a number.
* `Binary64.Rounds` — the number that a sign and an absolute value are rounded to.
-/
namespace TwoWaySql.Binary64

/-! ## Magnitudes -/

/-- What a magnitude stands for, in units of `2 ^ -1074`. -/
def units (magnitude : Nat) : Nat :=
  if magnitude < exponentWeight then magnitude
  else (exponentWeight + magnitude % exponentWeight) * 2 ^ (magnitude / exponentWeight - 1)

/-- The absolute value of a number that is no NaN. An infinity counts as the power of two behind
the finite numbers. -/
def value (x : Binary64) : ℚ := x.significand * 2 ^ x.power

/-- A binade has one exponent for all its significands, and the first number of the next one. -/
theorem units_add {k m : Nat} (hlow : k = 0 ∨ exponentWeight ≤ m) (hhigh : m ≤ 2 * exponentWeight) :
    units (k * exponentWeight + m) = m * 2 ^ k := by
  simp only [exponentWeight] at hlow hhigh
  rw [units]
  simp only [exponentWeight]
  by_cases hsub : k * 4503599627370496 + m < 4503599627370496
  · have hk : k = 0 := by omega
    rw [if_pos hsub, hk]
    simp
  · rw [if_neg hsub]
    by_cases hlast : m = 2 * 4503599627370496
    · have hdiv : (k * 4503599627370496 + m) / 4503599627370496 - 1 = k + 1 := by omega
      have hmod : (k * 4503599627370496 + m) % 4503599627370496 = 0 := by omega
      rw [hdiv, hmod, hlast, Nat.pow_succ]
      ring
    · have hdiv : (k * 4503599627370496 + m) / 4503599627370496 - 1 = k := by omega
      have hmod : 4503599627370496 + (k * 4503599627370496 + m) % 4503599627370496 = m := by omega
      rw [hdiv, hmod]

theorem units_strictMono : StrictMono units := by
  apply strictMono_nat_of_lt_succ
  intro n
  -- both magnitudes are counted in the binade of the smaller one
  obtain ⟨k, m, rfl, hlow, hhigh⟩ : ∃ k m, n = k * exponentWeight + m ∧
      (k = 0 ∨ exponentWeight ≤ m) ∧ m < 2 * exponentWeight := by
    by_cases hsub : n < exponentWeight
    · exact ⟨0, n, by omega, .inl rfl, by omega⟩
    · refine ⟨n / exponentWeight - 1, exponentWeight + n % exponentWeight, ?_, .inr ?_, ?_⟩
      all_goals
        simp only [exponentWeight] at *
        omega
  have hnext := units_add (k := k) (m := m + 1) (by omega) (by omega)
  rw [Nat.add_assoc, hnext, units_add hlow (by omega)]
  exact Nat.mul_lt_mul_of_pos_right (Nat.lt_succ_self m) (Nat.pow_pos (by decide))

/-- A power of two with a negative or a positive exponent as a fraction of natural powers. -/
theorem zpow_eq_div (q : ℤ) : (2 : ℚ) ^ q = 2 ^ q.toNat / 2 ^ (-q).toNat := by
  by_cases hq : 0 ≤ q
  · have hneg : (-q).toNat = 0 := by omega
    rw [hneg, pow_zero, div_one, ← zpow_natCast, Int.toNat_of_nonneg hq]
  · have hpos : q.toNat = 0 := by omega
    rw [hpos, pow_zero, one_div, ← zpow_natCast, Int.toNat_of_nonneg (by omega), zpow_neg, inv_inv]

theorem value_eq (x : Binary64) : x.value = units x.magnitude / 2 ^ 1074 := by
  rw [value, significand, power, units]
  by_cases hsub : x.magnitude < exponentWeight
  · have hpower : (-1074 : ℤ) = -((1074 : ℕ) : ℤ) := rfl
    rw [if_pos hsub, if_pos hsub, if_pos hsub, hpower, zpow_neg, zpow_natCast, div_eq_mul_inv]
  · rw [if_neg hsub, if_neg hsub, if_neg hsub]
    have hone : 1 ≤ x.magnitude / exponentWeight := by
      simp only [exponentWeight] at *
      omega
    have hpower : ((x.magnitude / exponentWeight : ℕ) : ℤ) - 1075 =
        ((x.magnitude / exponentWeight - 1 : ℕ) : ℤ) - (1074 : ℕ) := by omega
    rw [hpower, zpow_sub₀ two_ne_zero, zpow_natCast, zpow_natCast, Nat.cast_mul, Nat.cast_pow,
      Nat.cast_ofNat, mul_div_assoc]

/-! ## Signs and magnitudes -/

theorem toNat_bits_ofMagnitude {negative : Bool} {m : Nat} (h : m < signWeight) :
    (ofMagnitude negative m).bits.toNat = if negative then signWeight + m else m := by
  simp only [signWeight] at *
  rw [ofMagnitude, UInt64.toNat_ofNat']
  cases negative with
  | true =>
      simp only [if_true, signWeight]
      omega
  | false =>
      simp only [Bool.false_eq_true, if_false]
      omega

theorem magnitude_ofMagnitude {negative : Bool} {m : Nat} (h : m < signWeight) :
    (ofMagnitude negative m).magnitude = m := by
  rw [magnitude, toNat_bits_ofMagnitude h]
  simp only [signWeight] at *
  cases negative with
  | true =>
      simp only [if_true]
      omega
  | false =>
      simp only [Bool.false_eq_true, if_false]
      omega

theorem isNegative_ofMagnitude {negative : Bool} {m : Nat} (h : m < signWeight) :
    (ofMagnitude negative m).isNegative = negative := by
  rw [isNegative, toNat_bits_ofMagnitude h]
  cases negative with
  | true => simp
  | false => simpa using h

/-- A number is known from its sign and its magnitude. -/
theorem eq_of_magnitude_eq {x y : Binary64} (hsign : x.isNegative = y.isNegative)
    (hmagnitude : x.magnitude = y.magnitude) : x = y := by
  obtain ⟨x⟩ := x
  obtain ⟨y⟩ := y
  have hx := x.toNat_lt
  have hy := y.toNat_lt
  simp only [isNegative, magnitude, signWeight, decide_eq_decide] at hsign hmagnitude
  have hbits : x.toNat = y.toNat := by omega
  rw [UInt64.toNat_inj.1 hbits]

/-! ## The binade of a fraction -/

variable {num den : Nat}

theorem zpow_le_div_iff (hden : 0 < den) (q : ℤ) :
    (2 : ℚ) ^ q ≤ num / den ↔ den * Nat.pow 2 q.toNat ≤ num * Nat.pow 2 (-q).toNat := by
  have hcast : ((2 ^ q.toNat * den : ℕ) : ℚ) ≤ ((num * 2 ^ (-q).toNat : ℕ) : ℚ) ↔
      2 ^ q.toNat * den ≤ num * 2 ^ (-q).toNat := Nat.cast_le
  rw [zpow_eq_div, div_le_div_iff₀ (by positivity) (by positivity), Nat.mul_comm den]
  push_cast at hcast
  exact hcast

/-- A fraction lies between two neighbouring powers of two. -/
theorem zpow_floorLog2_le (hnum : 0 < num) (hden : 0 < den) :
    (2 : ℚ) ^ floorLog2 num den ≤ num / den ∧ (num / den : ℚ) < 2 ^ (floorLog2 num den + 1) := by
  have hbounds : ∀ n : ℕ, 0 < n →
      (2 : ℚ) ^ (n.log2 : ℤ) ≤ n ∧ (n : ℚ) < 2 ^ ((n.log2 : ℤ) + 1) := by
    intro n hn
    have hlow : 2 ^ n.log2 ≤ n := Nat.log2_self_le (by omega)
    have hhigh : n < 2 ^ (n.log2 + 1) := Nat.lt_log2_self
    rw [show (n.log2 : ℤ) + 1 = ((n.log2 + 1 : ℕ) : ℤ) from rfl, zpow_natCast, zpow_natCast]
    exact ⟨by exact_mod_cast hlow, by exact_mod_cast hhigh⟩
  obtain ⟨hnumLow, hnumHigh⟩ := hbounds num hnum
  obtain ⟨hdenLow, hdenHigh⟩ := hbounds den hden
  have hdenPos : (0 : ℚ) < den := by exact_mod_cast hden
  have htwo : (0 : ℚ) < 2 := two_pos
  set guess : ℤ := (num.log2 : ℤ) - den.log2 with hguess
  have hbelow : (2 : ℚ) ^ (guess - 1) ≤ num / den := by
    rw [le_div_iff₀ hdenPos]
    calc
      (2 : ℚ) ^ (guess - 1) * den ≤ 2 ^ (guess - 1) * 2 ^ ((den.log2 : ℤ) + 1) := by gcongr
      _ = 2 ^ (num.log2 : ℤ) := by
        rw [← zpow_add₀ htwo.ne', hguess]
        congr 1
        ring
      _ ≤ num := hnumLow
  have habove : (num / den : ℚ) < 2 ^ (guess + 1) := by
    rw [div_lt_iff₀ hdenPos]
    calc
      (num : ℚ) < 2 ^ ((num.log2 : ℤ) + 1) := hnumHigh
      _ = 2 ^ (guess + 1) * 2 ^ (den.log2 : ℤ) := by
        rw [← zpow_add₀ htwo.ne', hguess]
        congr 1
        ring
      _ ≤ 2 ^ (guess + 1) * den := by gcongr
  have hfloor : floorLog2 num den = if (2 : ℚ) ^ guess ≤ num / den then guess else guess - 1 := by
    rw [floorLog2, ← hguess]
    simp only [zpow_le_div_iff hden]
  rw [hfloor]
  by_cases hle : (2 : ℚ) ^ guess ≤ num / den
  · rw [if_pos hle]
    exact ⟨hle, habove⟩
  · rw [if_neg hle, sub_add_cancel]
    exact ⟨hbelow, not_le.1 hle⟩

/-- A fraction against the middle of the two natural numbers around it. -/
theorem compare_middle (num : Nat) (hden : 0 < den) :
    (2 * (num / den : ℚ) ≤ 2 * (num / den : ℕ) + 1 ↔ 2 * (num % den) ≤ den) ∧
      (2 * (num / den : ℕ) + 1 ≤ 2 * (num / den : ℚ) ↔ den ≤ 2 * (num % den)) := by
  have hdenPos : (0 : ℚ) < den := by exact_mod_cast hden
  have hsplit : 2 * (num / den : ℚ) = 2 * (num / den : ℕ) + (2 * (num % den) : ℕ) / den := by
    have hmod : (den * (num / den) + num % den : ℕ) = (num : ℚ) := by rw [Nat.div_add_mod]
    rw [← hmod]
    push_cast
    field_simp
  rw [hsplit, add_le_add_iff_left, add_le_add_iff_left, div_le_one hdenPos, one_le_div hdenPos,
    Nat.cast_le, Nat.cast_le]
  exact ⟨Iff.rfl, Iff.rfl⟩

theorem div_lt_succ (num : Nat) (hden : 0 < den) :
    ((num / den : ℕ) : ℚ) ≤ num / den ∧ (num / den : ℚ) < (num / den : ℕ) + 1 := by
  have hdenPos : (0 : ℚ) < den := by exact_mod_cast hden
  rw [le_div_iff₀ hdenPos, div_lt_iff₀ hdenPos, mul_comm, mul_comm (_ + 1 : ℚ)]
  exact ⟨by exact_mod_cast Nat.mul_div_le num den,
    by exact_mod_cast Nat.lt_mul_div_succ num hden⟩

/-- Rounding to a natural number takes the one below a fraction or the one above it, whichever is
nearer, and the even one in the middle. -/
theorem roundHalfEven_cases (num : Nat) (hden : 0 < den) :
    (roundHalfEven num den = num / den ∧ 2 * (num / den : ℚ) ≤ 2 * (num / den : ℕ) + 1 ∧
      (2 * (num / den : ℕ) + 1 ≤ 2 * (num / den : ℚ) → num / den % 2 = 0)) ∨
    (roundHalfEven num den = num / den + 1 ∧ 2 * (num / den : ℕ) + 1 ≤ 2 * (num / den : ℚ) ∧
      (2 * (num / den : ℚ) ≤ 2 * (num / den : ℕ) + 1 → (num / den + 1) % 2 = 0)) := by
  obtain ⟨hbelow, habove⟩ := compare_middle num hden
  rw [hbelow, habove, roundHalfEven]
  split
  · next h =>
    simp only [Bool.or_eq_true, Bool.and_eq_true, decide_eq_true_eq, beq_iff_eq] at h
    exact .inl ⟨rfl, by omega, fun _ => by omega⟩
  · next h =>
    simp only [Bool.or_eq_true, Bool.and_eq_true, decide_eq_true_eq, beq_iff_eq] at h
    exact .inr ⟨rfl, by omega, fun _ => by omega⟩

/-! ## The nearest number -/

/-- The number that a sign and an absolute value are rounded to. -/
structure Rounds (x : Binary64) (negative : Bool) (v : ℚ) : Prop where
  /-- It has the sign. -/
  sign : x.isNegative = negative
  /-- It is a number. -/
  number : x.isNaN = false
  /-- No number is nearer. -/
  nearest : ∀ y : Binary64, y.isNaN = false → |x.value - v| ≤ |y.value - v|
  /-- If another one is as near, it is the even one. -/
  even : ∀ y : Binary64, y.isNaN = false → |y.value - v| = |x.value - v| → y.value ≠ x.value →
    x.magnitude % 2 = 0

/-- Whether no magnitude is nearer to a number of units, and it is even if another one is as
near. -/
def Nearest (m : Nat) (w : ℚ) : Prop := ∀ n ≤ infiniteMagnitude, |units m - w| ≤ |units n - w| ∧
  (|units n - w| = |units m - w| → n ≠ m → m % 2 = 0)

variable {m lower : Nat} {w : ℚ}

/-- The nearer one of the two magnitudes around a number of units is the nearest of all. -/
theorem nearest_of_between (hlow : units lower ≤ w) (hhigh : w < units (lower + 1))
    (hm : (m = lower ∧ 2 * w ≤ units lower + units (lower + 1) ∧
        (units lower + units (lower + 1) ≤ 2 * w → m % 2 = 0)) ∨
      (m = lower + 1 ∧ units lower + units (lower + 1) ≤ 2 * w ∧
        (2 * w ≤ units lower + units (lower + 1) → m % 2 = 0))) : Nearest m w := by
  intro n _
  by_cases hn : n ≤ lower
  · have hle : (units n : ℚ) ≤ units lower := by exact_mod_cast units_strictMono.monotone hn
    rw [abs_of_nonpos (a := (units n : ℚ) - w) (by linarith)]
    rcases hm with ⟨rfl, hnear, -⟩ | ⟨rfl, hnear, heven⟩
    · rw [abs_of_nonpos (by linarith)]
      refine ⟨by linarith, fun heq hne => ?_⟩
      have hlt : (units n : ℚ) < units m := by exact_mod_cast units_strictMono (by omega)
      linarith
    · rw [abs_of_nonneg (by linarith)]
      exact ⟨by linarith, fun heq _ => heven (by linarith)⟩
  · have hle : (units (lower + 1) : ℚ) ≤ units n := by
      exact_mod_cast units_strictMono.monotone (by omega)
    rw [abs_of_nonneg (a := (units n : ℚ) - w) (by linarith)]
    rcases hm with ⟨rfl, hnear, heven⟩ | ⟨rfl, hnear, -⟩
    · rw [abs_of_nonpos (by linarith)]
      exact ⟨by linarith, fun heq _ => heven (by linarith)⟩
    · rw [abs_of_nonneg (by linarith)]
      refine ⟨by linarith, fun heq hne => ?_⟩
      have hlt : (units (lower + 1) : ℚ) < units n := by
        exact_mod_cast units_strictMono (by omega)
      linarith

/-- Beyond the finite numbers the infinities are nearest. -/
theorem nearest_infinite (hw : units infiniteMagnitude ≤ w) : Nearest infiniteMagnitude w := by
  intro n hn
  have hle : (units n : ℚ) ≤ units infiniteMagnitude := by
    exact_mod_cast units_strictMono.monotone hn
  rw [abs_of_nonpos (by linarith), abs_of_nonpos (by linarith)]
  exact ⟨by linarith, fun _ _ => rfl⟩

/-- Only one magnitude is nearest. -/
theorem Nearest.unique {m' : Nat} (hm : m ≤ infiniteMagnitude) (hm' : m' ≤ infiniteMagnitude)
    (h : Nearest m w) (h' : Nearest m' w) : m = m' := by
  wlog hlt : m < m' generalizing m m'
  · by_contra hne
    exact hne (this hm' hm h' h (by omega)).symm
  have heq : |(units m' : ℚ) - w| = |units m - w| :=
    le_antisymm (h' m hm).1 (h m' hm').1
  have heven := (h m' hm').2 heq (by omega)
  have heven' := (h' m hm).2 heq.symm (by omega)
  -- the odd magnitude between the two would be nearer
  have hnext := (h (m + 1) (by omega)).1
  have hbelow : (units m : ℚ) < units (m + 1) := by exact_mod_cast units_strictMono (by omega)
  have habove : (units (m + 1) : ℚ) < units m' := by exact_mod_cast units_strictMono (by omega)
  rcases abs_eq_abs.1 heq with hsame | hopposite
  · linarith
  · have hcloser : |(units (m + 1) : ℚ) - w| < units m' - w :=
      abs_lt.2 ⟨by linarith, by linarith⟩
    rw [← heq, abs_of_pos (a := (units m' : ℚ) - w) (by linarith)] at hnext
    linarith

theorem abs_value_sub (x : Binary64) (v : ℚ) :
    |x.value - v| = |units x.magnitude - v * 2 ^ 1074| / 2 ^ 1074 := by
  have hpos : (0 : ℚ) < 2 ^ 1074 := pow_pos two_pos _
  rw [value_eq]
  generalize (2 : ℚ) ^ 1074 = scale at *
  have hsplit : (units x.magnitude : ℚ) / scale - v = (units x.magnitude - v * scale) / scale := by
    field_simp
  rw [hsplit, abs_div, abs_of_pos hpos]

theorem isNaN_eq_false_iff {x : Binary64} : x.isNaN = false ↔ x.magnitude ≤ infiniteMagnitude := by
  rw [isNaN, decide_eq_false_iff_not, not_lt]

theorem value_eq_iff {x y : Binary64} : x.value = y.value ↔ x.magnitude = y.magnitude := by
  have hpos : (0 : ℚ) < 2 ^ 1074 := pow_pos two_pos _
  rw [value_eq, value_eq, div_left_inj' hpos.ne', Nat.cast_inj, units_strictMono.injective.eq_iff]

/-- What a sign and an absolute value are rounded to has the nearest magnitude. -/
theorem rounds_iff_nearest {x : Binary64} {negative : Bool} {v : ℚ} : x.Rounds negative v ↔
    x.isNegative = negative ∧ x.magnitude ≤ infiniteMagnitude ∧
      Nearest x.magnitude (v * 2 ^ 1074) := by
  have hpos : (0 : ℚ) < 2 ^ 1074 := pow_pos two_pos _
  constructor
  · intro h
    refine ⟨h.sign, isNaN_eq_false_iff.1 h.number, fun n hn => ?_⟩
    have hmagnitude : (ofMagnitude false n).magnitude = n :=
      magnitude_ofMagnitude (lt_of_le_of_lt hn (by decide))
    have hnumber : (ofMagnitude false n).isNaN = false := by
      rw [isNaN_eq_false_iff, hmagnitude]
      exact hn
    have hnearest := h.nearest _ hnumber
    have heven := h.even _ hnumber
    rw [abs_value_sub, abs_value_sub, hmagnitude, div_le_div_iff_of_pos_right hpos] at hnearest
    rw [abs_value_sub, abs_value_sub, hmagnitude, div_left_inj' hpos.ne', ne_eq, value_eq_iff,
      hmagnitude] at heven
    exact ⟨hnearest, heven⟩
  · rintro ⟨hsign, hx, hnearest⟩
    refine ⟨hsign, isNaN_eq_false_iff.2 hx, fun y hy => ?_, fun y hy => ?_⟩
    · rw [abs_value_sub, abs_value_sub, div_le_div_iff_of_pos_right hpos]
      exact (hnearest _ (isNaN_eq_false_iff.1 hy)).1
    · rw [abs_value_sub, abs_value_sub, div_left_inj' hpos.ne', ne_eq, value_eq_iff]
      exact (hnearest _ (isNaN_eq_false_iff.1 hy)).2

/-- The exponent of a binade, as `ofRatio` chooses it, leaves at most 53 bits before the point, and
less than 53 only for the numbers below the least normal one. -/
theorem scaled_bounds (hnum : 0 < num) (hden : 0 < den) {q : ℤ}
    (hq : q = max (floorLog2 num den - 52) (-1074)) :
    (num / den : ℚ) / 2 ^ q < 2 * exponentWeight ∧
      (q = -1074 ∨ (exponentWeight : ℚ) ≤ num / den / 2 ^ q) := by
  obtain ⟨hlow, hhigh⟩ := zpow_floorLog2_le hnum hden
  have hpos : (0 : ℚ) < 2 ^ q := zpow_pos two_pos q
  rw [div_lt_iff₀ hpos, le_div_iff₀ hpos]
  constructor
  · calc
      (num / den : ℚ) < 2 ^ (floorLog2 num den + 1) := hhigh
      _ ≤ 2 ^ (53 + q) := zpow_le_zpow_right₀ one_le_two (by omega)
      _ = 2 * exponentWeight * 2 ^ q := by
        rw [zpow_add₀ two_ne_zero]
        norm_num
  · by_cases hsub : q = -1074
    · exact .inl hsub
    · refine .inr ?_
      calc
        (exponentWeight : ℚ) * 2 ^ q = 2 ^ (52 + q) := by
          rw [zpow_add₀ two_ne_zero]
          norm_num
        _ ≤ 2 ^ floorLog2 num den := zpow_le_zpow_right₀ one_le_two (by omega)
        _ ≤ num / den := hlow

theorem cast_scaled_div (num den : Nat) (q : ℤ) :
    ((num * Nat.pow 2 (-q).toNat : ℕ) / (den * Nat.pow 2 q.toNat : ℕ) : ℚ) =
      num / den / 2 ^ q := by
  rw [zpow_eq_div, Nat.pow_eq, Nat.pow_eq]
  push_cast
  field_simp

/-- The integral part in the units of a binade, rounded to the nearer side, is the nearest
magnitude. -/
theorem nearest_of_binade {k floor : Nat} {v : ℚ} (hlow : k = 0 ∨ exponentWeight ≤ floor)
    (hhigh : floor < 2 * exponentWeight) (hfloor : (floor : ℚ) ≤ v ∧ v < floor + 1)
    (hm : (m = floor ∧ 2 * v ≤ 2 * floor + 1 ∧ (2 * floor + 1 ≤ 2 * v → floor % 2 = 0)) ∨
      (m = floor + 1 ∧ 2 * floor + 1 ≤ 2 * v ∧ (2 * v ≤ 2 * floor + 1 → (floor + 1) % 2 = 0))) :
    Nearest (min (k * exponentWeight + m) infiniteMagnitude) (v * 2 ^ k) := by
  have hscale : (0 : ℚ) < 2 ^ k := pow_pos two_pos k
  have hlower : (units (k * exponentWeight + floor) : ℚ) = floor * 2 ^ k := by
    rw [units_add hlow (by omega), Nat.cast_mul, Nat.cast_pow, Nat.cast_ofNat]
  have hupper : (units (k * exponentWeight + floor + 1) : ℚ) = (floor + 1) * 2 ^ k := by
    rw [Nat.add_assoc, units_add (by omega) (by omega), Nat.cast_mul, Nat.cast_pow,
      Nat.cast_ofNat, Nat.cast_add, Nat.cast_one]
  have hbelow : (units (k * exponentWeight + floor) : ℚ) ≤ v * 2 ^ k := by
    rw [hlower]
    exact mul_le_mul_of_nonneg_right hfloor.1 hscale.le
  have hparity : ∀ n, (k * exponentWeight + n) % 2 = n % 2 := by
    intro n
    rw [Nat.add_mod, Nat.mul_mod, show exponentWeight % 2 = 0 from rfl, Nat.mul_zero, Nat.zero_mod,
      Nat.zero_add, Nat.mod_mod]
  by_cases hfinite : k * exponentWeight + floor < infiniteMagnitude
  · have habove : v * 2 ^ k < (units (k * exponentWeight + floor + 1) : ℚ) := by
      rw [hupper]
      exact mul_lt_mul_of_pos_right hfloor.2 hscale
    have hmiddle : (units (k * exponentWeight + floor) : ℚ) +
        units (k * exponentWeight + floor + 1) = (2 * floor + 1) * 2 ^ k := by
      rw [hlower, hupper]
      ring
    have hm' : m ≤ floor + 1 := by
      rcases hm with ⟨rfl, -⟩ | ⟨rfl, -⟩ <;> omega
    rw [min_eq_left (by omega)]
    refine nearest_of_between hbelow habove ?_
    rw [hmiddle, ← mul_assoc, mul_le_mul_iff_left₀ hscale, mul_le_mul_iff_left₀ hscale, hparity]
    rcases hm with ⟨rfl, hm⟩ | ⟨rfl, hm⟩
    · exact .inl ⟨rfl, hm⟩
    · exact .inr ⟨(Nat.add_assoc _ _ _).symm, hm⟩
  · have hm' : floor ≤ m := by
      rcases hm with ⟨rfl, -⟩ | ⟨rfl, -⟩ <;> omega
    rw [min_eq_right (by omega)]
    apply nearest_infinite
    calc
      (units infiniteMagnitude : ℚ) ≤ units (k * exponentWeight + floor) := by
        exact_mod_cast units_strictMono.monotone (by omega)
      _ ≤ v * 2 ^ k := hbelow

/-- The magnitude that a fraction is rounded to is the nearest. -/
theorem nearest_ofRatio (hnum : 0 < num) (hden : 0 < den) {q : ℤ}
    (hq : q = max (floorLog2 num den - 52) (-1074)) :
    Nearest (min ((q + 1074).toNat * exponentWeight +
      roundHalfEven (num * Nat.pow 2 (-q).toNat) (den * Nat.pow 2 q.toNat)) infiniteMagnitude)
      (num / den * 2 ^ 1074) := by
  obtain ⟨hhigh, hlow⟩ := scaled_bounds hnum hden hq
  have hscaledPos : 0 < den * Nat.pow 2 q.toNat := Nat.mul_pos hden (Nat.pow_pos (by decide))
  have hfloor := div_lt_succ (num * Nat.pow 2 (-q).toNat) hscaledPos
  have hcases := roundHalfEven_cases (num * Nat.pow 2 (-q).toNat) hscaledPos
  rw [cast_scaled_div] at hfloor hcases
  -- the number of units is the scaled fraction times the units of the binade
  have hunits : (num / den * 2 ^ 1074 : ℚ) = num / den / 2 ^ q * 2 ^ (q + 1074).toNat := by
    have hpos : (0 : ℚ) < 2 ^ q := zpow_pos two_pos q
    have hbinade : (2 : ℚ) ^ q * 2 ^ 1074 = 2 ^ (q + 1074).toNat := by
      rw [← zpow_natCast, ← zpow_natCast, ← zpow_add₀ two_ne_zero]
      congr 1
      omega
    rw [← hbinade, ← mul_assoc, div_mul_cancel₀ _ hpos.ne']
  rw [hunits]
  refine nearest_of_binade ?_ ?_ hfloor hcases
  · rcases hlow with hsub | hnormal
    · exact .inl (by omega)
    · refine .inr (Nat.lt_succ_iff.1 ?_)
      have hlt := hnormal.trans_lt hfloor.2
      exact_mod_cast hlt
  · have hlt := hfloor.1.trans_lt hhigh
    exact_mod_cast hlt

/-- **Rounding is correct**: the number of a sign and a fraction is the only one they round to. -/
theorem rounds_iff_eq_ofRatio (num : Nat) (hden : 0 < den) {x : Binary64} {negative : Bool} :
    x.Rounds negative (num / den) ↔ x = ofRatio negative num den := by
  -- both cases choose a nearest magnitude, of which there is one
  obtain ⟨m, hofRatio, hm, hnearest⟩ : ∃ m, ofRatio negative num den = ofMagnitude negative m ∧
      m ≤ infiniteMagnitude ∧ Nearest m (num / den * 2 ^ 1074) := by
    rw [ofRatio]
    by_cases hnum : num = 0
    · rw [if_pos hnum]
      refine ⟨0, rfl, by omega, fun n _ => ?_⟩
      have hzero : (units 0 : ℚ) = 0 := by exact_mod_cast rfl
      rw [hnum, Nat.cast_zero, zero_div, zero_mul, hzero, sub_zero, sub_zero, abs_zero]
      exact ⟨abs_nonneg _, fun _ _ => rfl⟩
    · rw [if_neg hnum]
      exact ⟨_, rfl, min_le_right _ _, nearest_ofRatio (by omega) hden rfl⟩
  have hlt : m < signWeight := lt_of_le_of_lt hm (by decide)
  rw [rounds_iff_nearest, hofRatio]
  constructor
  · rintro ⟨hsign, hx, hx'⟩
    apply eq_of_magnitude_eq
    · rw [hsign, isNegative_ofMagnitude hlt]
    · rw [magnitude_ofMagnitude hlt]
      exact hx'.unique hx hm hnearest
  · rintro rfl
    rw [isNegative_ofMagnitude hlt, magnitude_ofMagnitude hlt]
    exact ⟨rfl, hm, hnearest⟩

end TwoWaySql.Binary64
