import Mathlib.Tactic.SplitIfs
import TwoWaySql.Generation.Basic

/-!
# The order of texts

Texts are put in order by their code points. That is the order of their UTF-8 forms byte by byte,
because a larger code point has a larger form: either the first byte tells, or the forms are of
one length and their bytes are digits of the code points.
-/
namespace TwoWaySql.Text

/-- A smaller number has a smaller quotient, or one quotient and a smaller remainder. -/
private theorem div_lt_or_mod_lt {m n : Nat} (h : m < n) (k : Nat) :
    m / k < n / k ∨ m / k = n / k ∧ m % k < n % k := by
  have hle := Nat.div_le_div_right (c := k) (Nat.le_of_lt h)
  rcases Nat.lt_or_eq_of_le hle with hlt | heq
  · exact .inl hlt
  · have hm := Nat.div_add_mod m k
    have hn := Nat.div_add_mod n k
    rw [heq] at hm
    exact .inr ⟨heq, by omega⟩

/-- The digits in which a smaller number differs from a larger one first are in their order. -/
private theorem digits_lt {m n : Nat} (h : m < n) :
    m / 262144 < n / 262144 ∨ m / 262144 = n / 262144 ∧
      (m / 4096 % 64 < n / 4096 % 64 ∨ m / 4096 % 64 = n / 4096 % 64 ∧
        (m / 64 % 64 < n / 64 % 64 ∨ m / 64 % 64 = n / 64 % 64 ∧ m % 64 < n % 64)) := by
  have hm := Nat.div_div_eq_div_mul m 64 64
  have hm' := Nat.div_div_eq_div_mul m 4096 64
  have hn := Nat.div_div_eq_div_mul n 64 64
  have hn' := Nat.div_div_eq_div_mul n 4096 64
  rcases div_lt_or_mod_lt h 64 with h₁ | ⟨h₁, hlast⟩
  · rcases div_lt_or_mod_lt h₁ 64 with h₂ | ⟨h₂, hlast⟩
    · rcases div_lt_or_mod_lt h₂ 64 with h₃ | ⟨h₃, hlast⟩ <;> omega
    · omega
  · omega

/-- The form of a smaller character comes first, whatever follows. -/
theorem utf8EncodeChar_append_lt {a b : Char} (h : a < b) (s t : List UInt8) :
    String.utf8EncodeChar a ++ s < String.utf8EncodeChar b ++ t := by
  have hlt : a.val.toNat < b.val.toNat := h
  have hdigits := digits_lt hlt
  have hb : b.val.toNat < 0x110000 := by
    have hvalid := b.valid
    simp only [UInt32.isValidChar, Nat.isValidChar] at hvalid
    omega
  simp only [String.utf8EncodeChar]
  split_ifs <;>
    simp only [List.cons_append, List.nil_append, List.cons_lt_cons_iff, UInt8.lt_iff_toNat_lt,
      ← UInt8.toNat_inj, UInt8.toNat_ofNat'] <;>
    -- no byte is too large, nor is the leading digit
    simp (disch := omega) only [Nat.mod_eq_of_lt] <;>
    omega

/-- Of two texts the smaller has the smaller form. -/
theorem utf8_lt_of_lt {s t : Text} (h : s < t) : utf8 s < utf8 t := by
  induction s generalizing t with
  | nil =>
      cases t with
      | nil => exact absurd h (List.lt_irrefl [])
      | cons b t =>
          obtain ⟨x, bytes, hx⟩ := List.exists_cons_of_ne_nil (utf8EncodeChar_ne_nil b)
          rw [utf8_cons, hx]
          exact List.nil_lt_cons _ _
  | cons a s ih =>
      cases t with
      | nil => cases h
      | cons b t =>
          rcases List.cons_lt_cons_iff.1 h with hab | ⟨rfl, hst⟩
          · exact utf8EncodeChar_append_lt hab _ _
          · exact List.append_left_lt (ih hst)

/-- Of two texts one is smaller, unless they are one. -/
theorem lt_or_eq_or_gt (s t : Text) : s < t ∨ s = t ∨ t < s := by
  induction s generalizing t with
  | nil =>
      cases t with
      | nil => exact .inr (.inl rfl)
      | cons b t => exact .inl (List.nil_lt_cons b t)
  | cons a s ih =>
      cases t with
      | nil => exact .inr (.inr (List.nil_lt_cons a s))
      | cons b t =>
          rcases Nat.lt_trichotomy a.val.toNat b.val.toNat with hab | hab | hab
          · exact .inl (List.cons_lt_cons_iff.2 (.inl hab))
          · obtain rfl : a = b := Char.ext (UInt32.toNat_inj.1 hab)
            simpa [List.cons_lt_cons_iff] using ih t
          · exact .inr (.inr (List.cons_lt_cons_iff.2 (.inl hab)))

/-- The order by code points is the order by bytes. -/
theorem utf8_lt_iff {s t : Text} : utf8 s < utf8 t ↔ s < t := by
  constructor
  · intro h
    rcases lt_or_eq_or_gt s t with hlt | rfl | hgt
    · exact hlt
    · exact absurd h (List.lt_irrefl _)
    · exact absurd h (List.lt_asymm (utf8_lt_of_lt hgt))
  · exact utf8_lt_of_lt

theorem precedes_iff {s t : Text} : precedes s t = true ↔ s < t ∨ s = t := by
  induction s generalizing t with
  | nil => cases t <;> simp [precedes]
  | cons a s ih =>
      cases t with
      | nil => simp [precedes]
      | cons b t => simp [precedes, List.cons_lt_cons_iff, ih, and_or_left, or_assoc]

theorem precedes_trans {s t u : Text} (h : precedes s t = true) (h' : precedes t u = true) :
    precedes s u = true := by
  rw [precedes_iff] at *
  rcases h with h | rfl
  · rcases h' with h' | rfl
    · exact .inl (List.lt_trans h h')
    · exact .inl h
  · exact h'

theorem precedes_total (s t : Text) : (precedes s t || precedes t s) = true := by
  rw [Bool.or_eq_true, precedes_iff, precedes_iff]
  rcases lt_or_eq_or_gt s t with h | h | h
  · exact .inl (.inl h)
  · exact .inl (.inr h)
  · exact .inr (.inl h)

end TwoWaySql.Text
