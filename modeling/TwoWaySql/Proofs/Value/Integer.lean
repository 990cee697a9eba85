import TwoWaySql.Value.Basic

/-!
# Integers as values

An integer is a value as long as 64 bits hold it, and then the value with its number.

## Main definitions

* `Value.Fits` — the integers that 64 bits hold.
-/
namespace TwoWaySql.Value

/-- Whether an integer fits in 64 bits. -/
def Fits (i : Int) : Prop := Int64.minValue.toInt ≤ i ∧ i ≤ Int64.maxValue.toInt

theorem ofInt_eq_ok_iff {v : Value} {i : Int} :
    ofInt i = .ok v ↔ Fits i ∧ v = int (Int64.ofInt i) := by
  rw [ofInt, Fits]
  by_cases hlow : i < Int64.minValue.toInt
  · rw [if_pos hlow]
    constructor
    · intro h
      cases h
    · rintro ⟨h, -⟩
      omega
  · rw [if_neg hlow]
    by_cases hhigh : Int64.maxValue.toInt < i
    · rw [if_pos hhigh]
      constructor
      · intro h
        cases h
      · rintro ⟨h, -⟩
        omega
    · rw [if_neg hhigh, Except.ok.injEq, eq_comm]
      exact ⟨fun h => ⟨by omega, h⟩, fun h => h.2⟩

theorem toInt_eq_iff {n : Int64} {i : Int} : n.toInt = i ↔ Fits i ∧ n = Int64.ofInt i := by
  constructor
  · rintro rfl
    exact ⟨⟨n.minValue_le_toInt, n.toInt_le⟩, n.ofInt_toInt.symm⟩
  · rintro ⟨⟨hlow, hhigh⟩, rfl⟩
    have hmin : Int64.minValue.toInt = -2 ^ 63 := by decide
    have hmax : Int64.maxValue.toInt = 2 ^ 63 - 1 := by decide
    exact Int64.toInt_ofInt_of_le (by omega) (by omega)

/-- Every integer that fits is a value, and no other. -/
theorem ofInt_cases (i : Int) : (∃ n : Int64, n.toInt = i ∧ ofInt i = .ok (int n)) ∨
    (¬ Fits i ∧ ∃ e, ofInt i = .error e) := by
  cases hi : ofInt i with
  | ok v =>
      obtain ⟨hfits, rfl⟩ := ofInt_eq_ok_iff.1 hi
      exact .inl ⟨Int64.ofInt i, toInt_eq_iff.2 ⟨hfits, rfl⟩, rfl⟩
  | error e =>
      refine .inr ⟨fun hfits => ?_, e, rfl⟩
      rw [ofInt_eq_ok_iff.2 ⟨hfits, rfl⟩] at hi
      cases hi

end TwoWaySql.Value
