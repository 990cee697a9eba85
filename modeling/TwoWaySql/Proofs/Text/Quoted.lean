import Mathlib.Tactic.SplitIfs
import TwoWaySql.Text.Quoted

/-!
# Reading quoted text

Quoted text says itself where it ends, whatever stands behind it: inside the quotes one character
after the other can be read off the front, and what is read off before the closing quote is known
from the first letters. So two quoted texts at the start of one text are the same text, and no
quoted text goes over the end of a line.

## Main definitions

* `Text.ofHex` — the number that hexadecimal digits denote.
* `Text.unescape?` — the first character inside quotes, and what follows it.
-/
namespace TwoWaySql.Text

/-! ## Hexadecimal numerals -/

/-- The number that a hexadecimal digit stands for, letters being small. -/
def hexDigit (c : Char) : Nat :=
  if c.isDigit then c.toNat - '0'.toNat else c.toNat - 'a'.toNat + 10

/-- The number that hexadecimal digits denote. -/
def ofHex (digits : Text) : Nat := digits.foldl (fun n c => 16 * n + hexDigit c) 0

theorem hexDigit_digitChar {d : Nat} (h : d < 16) : hexDigit d.digitChar = d := by
  revert d
  decide

theorem ofHex_toDigits (n : Nat) : ofHex (Nat.toDigits 16 n) = n := by
  induction n using Nat.strongRecOn with
  | ind n ih =>
    rw [Nat.toDigits_eq_if (by decide)]
    split
    · next h => simp [ofHex, hexDigit_digitChar h]
    · next h =>
      have hquotient := ih (n / 16) (by omega)
      have hdigit := hexDigit_digitChar (Nat.mod_lt n (show 0 < 16 by decide))
      rw [ofHex] at hquotient ⊢
      rw [List.foldl_append, hquotient, List.foldl_cons, List.foldl_nil, hdigit]
      omega

theorem exists_of_mem_toDigits {n : Nat} {c : Char} (h : c ∈ Nat.toDigits 16 n) :
    ∃ d < 16, c = d.digitChar := by
  induction n using Nat.strongRecOn with
  | ind n ih =>
    rw [Nat.toDigits_eq_if (by decide)] at h
    split at h
    · next hn => exact ⟨n, hn, List.mem_singleton.1 h⟩
    · rcases List.mem_append.1 h with h | h
      · exact ih (n / 16) (by omega) h
      · exact ⟨n % 16, Nat.mod_lt n (by decide), List.mem_singleton.1 h⟩

/-- What is no digit does not occur in a numeral. -/
theorem not_mem_toDigits {c : Char} (h : ∀ d < 16, c ≠ d.digitChar) (n : Nat) :
    c ∉ Nat.toDigits 16 n := by
  intro hc
  obtain ⟨d, hd, rfl⟩ := exists_of_mem_toDigits hc
  exact h d hd rfl

/-! ## Inside quotes -/

/-- The first character inside quotes and what follows it, unless the quotes end. -/
def unescape? : Text → Option (Char × Text)
  | [] => none
  | '"' :: _ => none
  | '\\' :: '0' :: rest => some ('\x00', rest)
  | '\\' :: 't' :: rest => some ('\t', rest)
  | '\\' :: 'r' :: rest => some ('\r', rest)
  | '\\' :: 'n' :: rest => some ('\n', rest)
  | '\\' :: 'u' :: '{' :: rest =>
    some (Char.ofNat (ofHex (rest.takeWhile (· ≠ '}'))), (rest.dropWhile (· ≠ '}')).tail)
  | '\\' :: c :: rest => some (c, rest)
  | c :: rest => some (c, rest)

theorem unescape?_escape (c : Char) (t : Text) : unescape? (escape c ++ t) = some (c, t) := by
  rw [escape]
  split_ifs with hzero htab hreturn hbreak hquote hslash hprintable
  · rw [hzero]
    rfl
  · rw [htab]
    rfl
  · rw [hreturn]
    rfl
  · rw [hbreak]
    rfl
  · rw [hquote]
    rfl
  · rw [hslash]
    rfl
  · rw [List.singleton_append]
    unfold unescape?
    split <;> simp_all
  · have hdigits : ∀ d ∈ Nat.toDigits 16 c.toNat, (decide (d ≠ '}')) = true := by
      intro d hd
      simp only [decide_eq_true_eq]
      rintro rfl
      exact not_mem_toDigits (by decide) _ hd
    simp only [List.cons_append, List.nil_append, List.append_assoc, unescape?]
    rw [List.takeWhile_append_of_pos hdigits, List.dropWhile_append_of_pos hdigits]
    simp [ofHex_toDigits]

/-- Reading goes on in step until both quotes end. -/
theorem flatMap_escape_append_inj {s t u v : Text}
    (h : s.flatMap escape ++ '"' :: u = t.flatMap escape ++ '"' :: v) : s = t ∧ u = v := by
  have hread := congrArg unescape? h
  induction s generalizing t with
  | nil =>
      cases t with
      | nil => exact ⟨rfl, (List.cons.inj h).2⟩
      | cons d t =>
          rw [List.flatMap_cons, List.append_assoc, unescape?_escape] at hread
          cases hread
  | cons c s ih =>
      rw [List.flatMap_cons, List.append_assoc, unescape?_escape] at hread
      cases t with
      | nil => cases hread
      | cons d t =>
          rw [List.flatMap_cons, List.append_assoc, unescape?_escape, Option.some.injEq,
            Prod.mk.injEq] at hread
          obtain ⟨rfl, hrest⟩ := hread
          obtain ⟨rfl, hafter⟩ := ih hrest (congrArg unescape? hrest)
          exact ⟨rfl, hafter⟩

/-- Quoted text at the start of a text is known from the text, and so is what follows it. -/
theorem quoted_append_inj {s t u v : Text} (h : quoted s ++ u = quoted t ++ v) :
    s = t ∧ u = v := by
  simp only [quoted, List.cons_append, List.append_assoc, List.cons.injEq, true_and,
    List.nil_append] at h
  exact flatMap_escape_append_inj h

/-- Quoted text stays on its line. -/
theorem newline_not_mem_quoted (t : Text) : '\n' ∉ quoted t := by
  have hescape : ∀ c, '\n' ∉ escape c := by
    intro c
    rw [escape]
    split_ifs with hzero htab hreturn hbreak hquote hslash hprintable
    all_goals try decide
    · simpa [eq_comm] using hbreak
    · simpa using not_mem_toDigits (c := '\n') (by decide) c.toNat
  simp [quoted, hescape]

end TwoWaySql.Text
