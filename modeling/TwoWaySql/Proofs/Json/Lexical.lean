import Mathlib.Algebra.Group.Int.Defs
import Mathlib.Data.List.TakeDrop
import Mathlib.Data.List.TakeWhile
import Mathlib.Data.Option.Basic
import Mathlib.Tactic.SplitIfs
import TwoWaySql.Json.Reader
import TwoWaySql.Json.Writer
import TwoWaySql.Proofs.Text.Decimal

/-!
# Strings and numbers in JSON text

A string is read back from its quoted form whatever follows it. A number is read to its end, so
that what follows does not change it as long as it begins with no character of a number. An integer
is read back from its decimal text.
-/
namespace TwoWaySql.Json

/-! ## Strings -/

theorem hexValue?_hexDigit {n : Nat} (h : n < 16) : hexValue? (hexDigit n) = some n := by
  revert n
  decide

/-- An escaped character reads as its code point. -/
theorem readUnits_escape (c : Char) (t : Text) :
    readUnits (escape c ++ t) = (readUnits t).map (consUnit c.toNat) := by
  rw [escape]
  split_ifs with hquote hslash hback hfeed hbreak hreturn htab hcontrol
  · rw [hquote]
    rfl
  · rw [hslash]
    rfl
  · rw [hback]
    rfl
  · rw [hfeed]
    rfl
  · rw [hbreak]
    rfl
  · rw [hreturn]
    rfl
  · rw [htab]
    rfl
  · have hhigh := hexValue?_hexDigit (n := c.toNat / 16) (by omega)
    have hlow := hexValue?_hexDigit (n := c.toNat % 16) (by omega)
    have hzero : hexValue? '0' = some 0 := rfl
    have hunit : c.toNat / 16 * 16 + c.toNat % 16 = c.toNat := Nat.div_add_mod' _ _
    simp [readUnits, hex4?, hzero, hhigh, hlow, hunit]
  · have hplain : ¬ (c.toNat < 0x20 ∨ c = '\\') := not_or.2 ⟨hcontrol, hslash⟩
    rw [List.singleton_append, readUnits, if_neg hplain]
    · exact hquote
    · exact fun _ _ _ _ _ heq => absurd heq hslash
    · exact fun _ _ heq => absurd heq hslash

theorem readUnits_flatMap_escape (s t : Text) :
    readUnits (s.flatMap escape ++ '"' :: t) = some (s.map Char.toNat, t) := by
  induction s with
  | nil => rfl
  | cons c s ih =>
      rw [List.flatMap_cons, List.append_assoc, readUnits_escape, ih]
      rfl

/-- The code points of characters hold no half of a surrogate pair. -/
theorem ofUnits?_map_toNat (s : Text) : ofUnits? (s.map Char.toNat) = some s := by
  induction s with
  | nil => rfl
  | cons c s ih =>
      have hunit : ¬ (0xD800 ≤ c.toNat ∧ c.toNat < 0xE000) := by
        have hvalid : c.toNat.isValidChar := c.valid
        rw [Nat.isValidChar] at hvalid
        omega
      rw [List.map_cons, ofUnits?.eq_def]
      simp only
      rw [if_neg (by omega), if_neg (by omega), ih, Char.ofNat_toNat, Option.map_some]

/-- A string is read back from its quoted form. -/
theorem readString_quote (s t : Text) :
    readString (s.flatMap escape ++ '"' :: t) = some (some s, t) := by
  simp only [readString, readUnits_flatMap_escape, Option.map_some, ofUnits?_map_toNat]

/-! ## Numbers -/

/-- Whether no number goes on at the start of a text. -/
def EndsNumber (t : Text) : Prop :=
  ∀ c ∈ t.head?, Text.isAsciiDigit c = false ∧ c ≠ '.' ∧ c ≠ 'e' ∧ c ≠ 'E'

variable {t rest : Text}

theorem spanDigits_append (t : Text) (hrest : EndsNumber rest) :
    spanDigits (t ++ rest) = ((spanDigits t).1, (spanDigits t).2 ++ rest) := by
  simp only [spanDigits, List.span_eq_takeWhile_dropWhile]
  induction t with
  | nil =>
      cases rest with
      | nil => rfl
      | cons c rest =>
          have hc : Text.isAsciiDigit c = false := (hrest c rfl).1
          simp [hc]
  | cons c t ih =>
      by_cases hc : Text.isAsciiDigit c
      · simpa [hc] using ih
      · simp [hc]

/-- Reads the digits of a power of ten behind its sign. -/
def readPower (negative : Bool) (t : Text) : Option (Int × Text) :=
  if (spanDigits t).1.isEmpty then none
  else
    some (if negative then -(Text.toNat (spanDigits t).1 : Int) else Text.toNat (spanDigits t).1,
      (spanDigits t).2)

theorem readExponent_cons (c d : Char) (t : Text) : readExponent (c :: d :: t) =
    if c = 'e' ∨ c = 'E' then
      if d = '-' then readPower true t
      else if d = '+' then readPower false t
      else readPower false (d :: t)
    else some (0, c :: d :: t) := by
  rw [readExponent.eq_def]
  by_cases hminus : d = '-'
  · subst hminus
    rfl
  · by_cases hplus : d = '+'
    · subst hplus
      rfl
    · simp [hminus, hplus, readPower]

theorem readPower_append {negative : Bool} {power : Int} {after : Text} (hrest : EndsNumber rest)
    (h : readPower negative t = some (power, after)) :
    readPower negative (t ++ rest) = some (power, after ++ rest) := by
  rw [readPower, Option.ite_none_left_eq_some, Option.some.injEq, Prod.mk.injEq] at h
  obtain ⟨hsome, rfl, rfl⟩ := h
  rw [readPower, spanDigits_append t hrest, if_neg hsome]

theorem readExponent_append {power : Int} {after : Text} (hrest : EndsNumber rest)
    (h : readExponent t = some (power, after)) :
    readExponent (t ++ rest) = some (power, after ++ rest) := by
  match t with
  | [] =>
      cases h
      cases rest with
      | nil => rfl
      | cons c rest =>
          have hc := hrest c rfl
          simp [readExponent.eq_def, hc]
  | [c] =>
      rw [readExponent.eq_def] at h
      by_cases hc : c = 'e' ∨ c = 'E'
      · simp only [if_pos hc] at h
        cases h
      · simp only [if_neg hc] at h
        cases h
        rw [readExponent.eq_def]
        simp only [List.cons_append, if_neg hc]
  | c :: d :: t =>
      rw [readExponent_cons] at h
      rw [List.cons_append, List.cons_append, readExponent_cons]
      split_ifs at h ⊢
      · exact readPower_append hrest h
      · exact readPower_append hrest h
      · exact readPower_append hrest h
      · cases h
        rfl

/-- Reads a number behind its sign. -/
def readUnsigned (negative : Bool) (t : Text) : Option (Option Json × Text) := do
  guard (!(spanDigits t).1.isEmpty && !((spanDigits t).1.head? == some '0' &&
    1 < (spanDigits t).1.length))
  match (spanDigits t).2 with
  | '.' :: rest =>
    guard (!(spanDigits rest).1.isEmpty)
    let (power, after) ← readExponent (spanDigits rest).2
    some (fraction? negative (spanDigits t).1 (spanDigits rest).1 power, after)
  | c :: _ =>
    if c = 'e' ∨ c = 'E' then
      let (power, after) ← readExponent (spanDigits t).2
      some (fraction? negative (spanDigits t).1 [] power, after)
    else some (integer? negative (spanDigits t).1, (spanDigits t).2)
  | [] => some (integer? negative (spanDigits t).1, [])

theorem readNumber_cons (c : Char) (t : Text) : readNumber (c :: t) =
    if c = '-' then readUnsigned true t else readUnsigned false (c :: t) := by
  rw [readNumber.eq_def]
  by_cases hminus : c = '-'
  · subst hminus
    rfl
  · rw [if_neg hminus]
    split
    next negative' t' hparts =>
      split at hparts
      · next rest hrest => exact absurd (List.cons.inj hrest).1 hminus
      · cases hparts
        rfl

theorem readUnsigned_append {negative : Bool} {n : Option Json} {after : Text}
    (hrest : EndsNumber rest) (h : readUnsigned negative t = some (n, after)) :
    readUnsigned negative (t ++ rest) = some (n, after ++ rest) := by
  rw [readUnsigned, Option.bind_eq_bind, Option.bind_eq_some_iff] at h
  obtain ⟨_, hguard, h⟩ := h
  rw [readUnsigned, spanDigits_append t hrest, Option.bind_eq_bind, Option.bind_eq_some_iff]
  refine ⟨_, hguard, ?_⟩
  generalize (spanDigits t).1 = whole at *
  generalize (spanDigits t).2 = u at *
  cases u with
  | nil =>
      cases h
      cases rest with
      | nil => rfl
      | cons c rest =>
          have hc := hrest c rfl
          simp [hc]
  | cons c u =>
      by_cases hpoint : c = '.'
      · subst hpoint
        simp only [List.cons_append, spanDigits_append u hrest, Option.bind_eq_bind,
          Option.bind_eq_some_iff, Option.some.injEq, Prod.mk.injEq] at h ⊢
        obtain ⟨_, hsome, ⟨power, after'⟩, hpower, hn, rfl⟩ := h
        exact ⟨_, hsome, _, readExponent_append hrest hpower, hn, rfl⟩
      · by_cases hexponent : c = 'e' ∨ c = 'E'
        · simp only [hexponent, if_true, List.cons_append, Option.bind_eq_bind,
            Option.bind_eq_some_iff, Option.some.injEq, Prod.mk.injEq] at h ⊢
          obtain ⟨⟨power, after'⟩, hpower, hn, rfl⟩ := h
          exact ⟨_, readExponent_append hrest hpower, hn, rfl⟩
        · simp only [hexponent, if_false, List.cons_append, Option.some.injEq, Prod.mk.injEq] at h ⊢
          exact ⟨h.1, congrArg (· ++ rest) h.2⟩

/-- A number is read alike whatever follows it. -/
theorem readNumber_append {n : Option Json} {after : Text} (hrest : EndsNumber rest)
    (h : readNumber t = some (n, after)) : readNumber (t ++ rest) = some (n, after ++ rest) := by
  cases t with
  | nil => cases h
  | cons c t =>
      rw [readNumber_cons] at h
      rw [List.cons_append, readNumber_cons]
      split_ifs at h ⊢
      · exact readUnsigned_append hrest h
      · exact readUnsigned_append hrest h

theorem spanDigits_ofNat (n : Nat) : spanDigits (Text.ofNat n) = (Text.ofNat n, []) := by
  have hall : ∀ c ∈ Text.ofNat n, Text.isAsciiDigit c = true :=
    fun c => Text.isAsciiDigit_of_mem_ofNat
  rw [spanDigits, List.span_eq_takeWhile_dropWhile, List.takeWhile_eq_self_iff.2 hall,
    List.dropWhile_eq_nil_iff.2 hall]

/-- A numeral has no leading zero. -/
theorem readUnsigned_ofNat (negative : Bool) (n : Nat) :
    readUnsigned negative (Text.ofNat n) = some (integer? negative (Text.ofNat n), []) := by
  have hguard : (!(Text.ofNat n).isEmpty &&
      !((Text.ofNat n).head? == some '0' && decide (1 < (Text.ofNat n).length))) = true := by
    by_cases hzero : (Text.ofNat n).head? = some '0'
    · rw [Text.eq_zero_of_head?_ofNat hzero]
      rfl
    · simp [hzero, Text.ofNat_ne_nil]
  rw [readUnsigned, spanDigits_ofNat, guard, if_pos hguard]
  rfl

/-- An integer that a 64-bit word can hold, signed or not, is read back from its decimal text. -/
theorem readNumber_ofInt {i : Int} (hlow : -2 ^ 63 ≤ i) (hhigh : i < 2 ^ 64) :
    readNumber (Text.ofInt i) = some (some (int i), []) := by
  rw [Text.ofInt]
  by_cases hi : i < 0
  · have hmin : Int64.minValue.toInt.natAbs = 2 ^ 63 := by decide
    have hfits : ¬ (i.natAbs = 0 ∨ Int64.minValue.toInt.natAbs < i.natAbs) := by omega
    have hvalue : -(i.natAbs : Int) = i := by omega
    rw [if_pos hi, readNumber_cons, if_pos rfl, readUnsigned_ofNat, integer?, Text.toNat_ofNat]
    simp only [if_true, if_neg hfits, hvalue]
  · have hfits : i.natAbs ≤ maxSignificand := by
      rw [maxSignificand]
      omega
    have hvalue : (i.natAbs : Int) = i := by omega
    obtain ⟨c, t, ht⟩ := List.exists_cons_of_ne_nil (Text.ofNat_ne_nil i.natAbs)
    have hdigit : c.isDigit = true :=
      Text.isDigit_of_mem_ofNat (n := i.natAbs) (ht ▸ List.mem_cons_self)
    rw [if_neg hi, ht, readNumber_cons, if_neg (Text.ne_minus_of_isDigit hdigit), ← ht,
      readUnsigned_ofNat, integer?,
      Text.toNat_ofNat]
    simp only [Bool.false_eq_true, if_false, if_pos hfits, hvalue]

end TwoWaySql.Json
