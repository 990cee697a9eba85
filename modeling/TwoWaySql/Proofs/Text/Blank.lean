import Mathlib.Data.List.TakeWhile
import TwoWaySql.Text.Alphanumeric
import TwoWaySql.Text.Blank
import TwoWaySql.Text.Digit

/-!
# Blanks and trimming

No blank is a digit, a letter or a number of any script: the ranges of the blanks meet none of
theirs. Trimming takes blanks off both ends of a text and nothing else, so a text is its trimmed
form between blanks, and blanks added at either end make no difference to it.

## Main definitions

* `blankRanges` — the code points of the blanks.
* `Ranges.Apart` — whether two sets of code points have no range in common.
-/
namespace TwoWaySql

/-- The code points of the blanks. -/
def blankRanges : Ranges :=
  [(9, 13), (0x20, 0x20), (0x85, 0x85), (0xA0, 0xA0), (0x1680, 0x1680), (0x2000, 0x200A),
    (0x2028, 0x2029), (0x202F, 0x202F), (0x205F, 0x205F), (0x3000, 0x3000)]

/-- Whether each range of one set ends before or starts behind each range of another. -/
def Ranges.Apart (rs ss : Ranges) : Prop :=
  (rs.all fun r => ss.all fun s => r.2.blt s.1 || s.2.blt r.1) = true

instance (rs ss : Ranges) : Decidable (Ranges.Apart rs ss) :=
  inferInstanceAs (Decidable (_ = true))

theorem Ranges.Apart.contains_eq_false {rs ss : Ranges} {c : Char} (h : Ranges.Apart rs ss)
    (hc : rs.contains c = true) : ss.contains c = false := by
  obtain ⟨r, hr, hbounds⟩ := List.any_eq_true.1 hc
  refine List.any_eq_false.2 fun s hs hinside => ?_
  have hapart := List.all_eq_true.1 (List.all_eq_true.1 h r hr) s hs
  simp only [Bool.or_eq_true, Bool.and_eq_true, Nat.blt_eq, decide_eq_true_eq]
    at hapart hbounds hinside
  omega

theorem contains_blankRanges {c : Char} (h : isBlank c = true) :
    blankRanges.contains c = true := by
  simp only [isBlank, Bool.or_eq_true, Bool.and_eq_true, decide_eq_true_eq, beq_iff_eq] at h
  simp only [blankRanges, Ranges.contains, List.any_cons, List.any_nil, Bool.or_eq_true,
    Bool.and_eq_true, decide_eq_true_eq, Bool.false_eq_true]
  omega

theorem isDigit_of_isBlank {c : Char} (h : isBlank c = true) : isDigit c = false :=
  have hapart : Ranges.Apart blankRanges digitRanges := by decide +kernel
  hapart.contains_eq_false (contains_blankRanges h)

theorem isAlphanumeric_of_isBlank {c : Char} (h : isBlank c = true) : isAlphanumeric c = false :=
  have hapart : Ranges.Apart blankRanges alphanumericRanges := by decide +kernel
  hapart.contains_eq_false (contains_blankRanges h)

namespace Text

variable {t u v : Text}

/-! ## What trimming leaves -/

theorem trimEnd_eq_nil_iff : t.trimEnd = [] ↔ ∀ c ∈ t, isBlank c = true := by
  rw [trimEnd, trimStart, List.reverse_eq_nil_iff, List.dropWhile_eq_nil_iff]
  simp

theorem trim_eq_nil_iff : t.trim = [] ↔ ∀ c ∈ t, isBlank c = true := by
  rw [trim, trimEnd_eq_nil_iff, trimStart]
  constructor
  · intro h c hc
    rw [← List.takeWhile_append_dropWhile (p := isBlank) (l := t), List.mem_append] at hc
    rcases hc with hstart | hrest
    · exact List.mem_takeWhile_imp hstart
    · exact h c hrest
  · intro h c hc
    exact h c (List.dropWhile_sublist _ |>.subset hc)

theorem trimStart_eq_self {t : Text} (hfirst : ∀ c ∈ t.head?, isBlank c = false) :
    t.trimStart = t := by
  cases t with
  | nil => rfl
  | cons c rest => simp [trimStart, hfirst c rfl]

theorem trimEnd_eq_self {t : Text} (hlast : ∀ c ∈ t.getLast?, isBlank c = false) :
    t.trimEnd = t := by
  have hstart : trimStart t.reverse = t.reverse :=
    trimStart_eq_self fun c hc => hlast c (by rwa [List.head?_reverse] at hc)
  rw [trimEnd, hstart, List.reverse_reverse]

/-- A text that does not start with a blank is trimmed at its end. -/
theorem trim_eq_trimEnd {t : Text} (hfirst : ∀ c ∈ t.head?, isBlank c = false) :
    t.trim = t.trimEnd := by
  rw [trim, trimStart_eq_self hfirst]

theorem trim_eq_self {t : Text} (hfirst : ∀ c ∈ t.head?, isBlank c = false)
    (hlast : ∀ c ∈ t.getLast?, isBlank c = false) : t.trim = t := by
  rw [trim_eq_trimEnd hfirst, trimEnd_eq_self hlast]

theorem trim_eq_self_of_forall {t : Text} (h : ∀ c ∈ t, isBlank c = false) : t.trim = t :=
  trim_eq_self (fun c hc => h c (List.mem_of_head? hc)) fun c hc => h c (List.mem_of_getLast? hc)

/-- Trimming stops at a character that is not blank. -/
theorem exists_trim_eq_append {first last : Char} {inside rest : Text}
    (hfirst : isBlank first = false) (hlast : isBlank last = false) :
    ∃ rest', trim (first :: (inside ++ last :: rest)) = first :: (inside ++ last :: rest') := by
  have hstop (l m : Text) : ∃ l', (l ++ last :: m).dropWhile isBlank = l' ++ last :: m := by
    induction l with
    | nil => exact ⟨[], by simp [hlast]⟩
    | cons c l ih =>
        by_cases hc : isBlank c = true
        · simpa [hc] using ih
        · exact ⟨c :: l, by simp [hc]⟩
  obtain ⟨rest', hrest⟩ := hstop rest.reverse (first :: inside).reverse
  have hreverse : (first :: (inside ++ last :: rest)).reverse =
      rest.reverse ++ last :: (first :: inside).reverse := by simp
  refine ⟨rest'.reverse, ?_⟩
  rw [trim, trimStart, List.dropWhile_cons_of_neg (by simp [hfirst]), trimEnd, trimStart, hreverse,
    hrest]
  simp

theorem isBlank_of_mem_head?_trimStart {c : Char} (h : c ∈ t.trimStart.head?) :
    isBlank c = false := by
  have hhead := List.head?_dropWhile_not isBlank t
  rw [trimStart, Option.mem_def] at h
  rwa [h] at hhead

theorem isBlank_of_mem_getLast?_trimEnd {c : Char} (h : c ∈ t.trimEnd.getLast?) :
    isBlank c = false := by
  rw [trimEnd, List.getLast?_reverse] at h
  exact isBlank_of_mem_head?_trimStart h

/-! ## Blanks at the ends -/

theorem trimStart_append_of_blank (hu : ∀ c ∈ u, isBlank c = true) (t : Text) :
    trimStart (u ++ t) = trimStart t :=
  List.dropWhile_append_of_pos hu

theorem trimEnd_append_of_blank (t : Text) (hv : ∀ c ∈ v, isBlank c = true) :
    trimEnd (t ++ v) = trimEnd t := by
  rw [trimEnd, List.reverse_append, trimStart_append_of_blank (by simpa using hv), trimEnd]

/-- Blanks at the ends make no difference to a trimmed text. -/
theorem trim_append_of_blank (hu : ∀ c ∈ u, isBlank c = true) (t : Text)
    (hv : ∀ c ∈ v, isBlank c = true) : trim (u ++ t ++ v) = trim t := by
  rw [List.append_assoc, trim, trimStart_append_of_blank hu, trim]
  by_cases ht : trimStart t = []
  · -- nothing is left of the text, so that the blanks behind it are reached from the start
    have hstart : trimStart (t ++ v) = trimStart v :=
      trimStart_append_of_blank (List.dropWhile_eq_nil_iff.1 ht) v
    rw [hstart, ht, trimStart, List.dropWhile_eq_nil_iff.2 hv]
  · have hstart : trimStart (t ++ v) = trimStart t ++ v := by
      rw [trimStart, List.dropWhile_append, if_neg (by rwa [List.isEmpty_iff]), trimStart]
    rw [hstart, trimEnd_append_of_blank _ hv]

theorem exists_eq_append_trimStart (t : Text) :
    ∃ u, t = u ++ t.trimStart ∧ ∀ c ∈ u, isBlank c = true := by
  refine ⟨t.takeWhile isBlank, List.takeWhile_append_dropWhile.symm, ?_⟩
  intro c hc
  exact List.mem_takeWhile_imp hc

theorem exists_eq_trimEnd_append (t : Text) :
    ∃ v, t = t.trimEnd ++ v ∧ ∀ c ∈ v, isBlank c = true := by
  obtain ⟨v, hend, hv⟩ := exists_eq_append_trimStart t.reverse
  refine ⟨v.reverse, ?_, by simpa using hv⟩
  rw [trimEnd, ← List.reverse_append, ← hend, List.reverse_reverse]

/-- A text is its trimmed form with blanks around it. -/
theorem exists_eq_append_trim (t : Text) : ∃ u v, t = u ++ t.trim ++ v ∧
    (∀ c ∈ u, isBlank c = true) ∧ ∀ c ∈ v, isBlank c = true := by
  obtain ⟨u, hstart, hu⟩ := exists_eq_append_trimStart t
  obtain ⟨v, hend, hv⟩ := exists_eq_trimEnd_append t.trimStart
  refine ⟨u, v, ?_, hu, hv⟩
  rw [List.append_assoc, trim, ← hend, ← hstart]

/-- A trimmed text neither starts nor ends with a blank. -/
theorem isBlank_of_mem_ends_trim {c : Char} (h : c ∈ t.trim.head? ∨ c ∈ t.trim.getLast?) :
    isBlank c = false := by
  rcases h with hfirst | hlast
  · obtain ⟨rest, hrest, -⟩ := exists_eq_trimEnd_append t.trimStart
    refine isBlank_of_mem_head?_trimStart (t := t) ?_
    rw [hrest, List.head?_append, show t.trimStart.trimEnd.head? = some c from hfirst]
    rfl
  · exact isBlank_of_mem_getLast?_trimEnd hlast

theorem trim_trim (t : Text) : t.trim.trim = t.trim := by
  obtain ⟨u, v, ht, hu, hv⟩ := t.exists_eq_append_trim
  have htrim := congrArg trim ht
  rw [trim_append_of_blank hu _ hv] at htrim
  exact htrim.symm

/-- Trimming takes away no character that is not blank. -/
theorem mem_trim_of_mem {c : Char} (hc : isBlank c = false) (h : c ∈ t) : c ∈ t.trim := by
  obtain ⟨u, v, ht, hu, hv⟩ := t.exists_eq_append_trim
  rw [ht, List.mem_append, List.mem_append] at h
  rcases h with (hmem | hmem) | hmem
  · simp [hu c hmem] at hc
  · exact hmem
  · simp [hv c hmem] at hc

end Text

end TwoWaySql
