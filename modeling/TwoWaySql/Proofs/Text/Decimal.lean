import TwoWaySql.Text.Basic

/-!
# Decimal numerals

The numeral of a number is a non-empty row of ASCII digits, and reading it gives the number back.
-/
namespace TwoWaySql.Text

theorem ofNat_ne_nil (n : Nat) : ofNat n ≠ [] := Nat.toDigits_ne_nil

theorem isAsciiDigit_eq_isDigit (c : Char) : isAsciiDigit c = c.isDigit := by
  simp [isAsciiDigit, Char.isDigit, Char.le_def]

theorem ne_minus_of_isDigit {c : Char} (h : c.isDigit = true) : c ≠ '-' := by
  rintro rfl
  exact absurd h (by decide)

theorem toNat_eq_ofDigitChars (digits : Text) : toNat digits = Nat.ofDigitChars 10 digits 0 :=
  Nat.ofDigitChars_eq_foldl.symm

theorem isDigit_of_mem_ofNat {n : Nat} {c : Char} (h : c ∈ ofNat n) : c.isDigit = true :=
  Nat.isDigit_of_mem_toDigits (by decide) (by decide) h

theorem isAsciiDigit_of_mem_ofNat {n : Nat} {c : Char} (h : c ∈ ofNat n) :
    isAsciiDigit c = true := by
  rw [isAsciiDigit_eq_isDigit]
  exact isDigit_of_mem_ofNat h

/-- Only the numeral of zero begins with the digit zero. -/
theorem eq_zero_of_head?_ofNat {n : Nat} (h : (ofNat n).head? = some '0') : n = 0 := by
  induction n using Nat.strongRecOn with
  | ind n ih =>
      rw [ofNat, Nat.toDigits_eq_if (by decide)] at h
      split at h
      · next hn =>
        have hdigit : ∀ d < 10, d.digitChar = '0' → d = 0 := by decide
        exact hdigit n hn (Option.some.inj h)
      · next hn =>
        have hhead : (ofNat (n / 10)).head? = some '0' := by
          rw [ofNat]
          cases hdigits : Nat.toDigits 10 (n / 10) with
          | nil => exact absurd hdigits Nat.toDigits_ne_nil
          | cons c rest =>
              rw [hdigits] at h
              exact h
        have hquotient := ih (n / 10) (by omega) hhead
        omega

@[simp] theorem toNat_ofNat (n : Nat) : toNat (ofNat n) = n := by
  rw [toNat_eq_ofDigitChars, ofNat, Nat.ofDigitChars_ten_toDigits]

end TwoWaySql.Text
