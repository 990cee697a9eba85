import Mathlib.Data.List.TakeWhile
import TwoWaySql.Proofs.Binary64.Rounding
import TwoWaySql.Proofs.Text.Decimal
import TwoWaySql.Proofs.Value.Integer
import TwoWaySql.Value.Literal

/-!
# Literals are read exactly

The bare arguments that denote a value are described by a grammar: the two truth values, rows of
digits, and digits around one point, each number with an optional sign. Reading a text gives the
value of its form, and nothing for a text of no form.

## Main definitions

* `Value.IsWhole` — a sign and digits, with the number that they denote.
* `Value.IsDecimal` — a sign and digits around a point, with the number that they denote.
* `Value.IsFloating` — the numbers that do not fit in 64 bits, and those with a point.
* `Value.IsLiteral` — a text and the value that it denotes.
-/
namespace TwoWaySql.Value

/-- A number behind its sign. -/
def withSign (negative : Bool) (t : Text) : Text := if negative then '-' :: t else t

/-- A natural number with a sign. -/
def signed (negative : Bool) (n : Nat) : Int := if negative then -n else n

/-- One or more digits behind an optional sign, with the number that they denote. -/
inductive IsWhole : Text → Bool → Nat → Prop
  | mk (negative : Bool) {digits : Text} (hne : digits ≠ []) (hdigits : ∀ c ∈ digits, c.isDigit) :
    IsWhole (withSign negative digits) negative (Nat.ofDigitChars 10 digits 0)

/-- One or more digits and a point among them behind an optional sign, with the number that they
denote. -/
inductive IsDecimal : Text → Bool → ℚ → Prop
  | mk (negative : Bool) {whole fraction : Text} (hne : whole ++ fraction ≠ [])
    (hdigits : ∀ c ∈ whole ++ fraction, c.isDigit) :
    IsDecimal (withSign negative (whole ++ '.' :: fraction)) negative
      (Nat.ofDigitChars 10 (whole ++ fraction) 0 / 10 ^ fraction.length)

/-- A number that is no 64-bit integer: digits that denote too large or too small a number, or a
point among digits. -/
inductive IsFloating : Text → Bool → ℚ → Prop
  | whole {t : Text} {negative : Bool} {n : Nat} (h : IsWhole t negative n)
    (hrange : ¬ Fits (signed negative n)) : IsFloating t negative n
  | decimal {t : Text} {negative : Bool} {v : ℚ} (h : IsDecimal t negative v) :
    IsFloating t negative v

/-- A text and the value that it denotes. -/
inductive IsLiteral : Text → Value → Prop
  | bool (b : Bool) : IsLiteral (if b then "true" else "false" : String) (bool b)
  | int {t : Text} {negative : Bool} {n : Nat} {i : Int64} (h : IsWhole t negative n)
    (hi : i.toInt = signed negative n) : IsLiteral t (int i)
  | float {t : Text} {negative : Bool} {v : ℚ} {x : Binary64} (h : IsFloating t negative v)
    (hx : x.Rounds negative v) : IsLiteral t (float x)

/-! ## Numbers -/

variable {negative : Bool} {digits whole fraction t : Text} {v : Value}

theorem ne_point_of_isDigit {c : Char} (h : c.isDigit = true) : c ≠ '.' := by
  rintro rfl
  exact absurd h (by decide)

theorem span_of_digits (hdigits : ∀ c ∈ whole, c.isDigit) (rest : Text) :
    (whole ++ '.' :: rest).span (· ≠ '.') = (whole, '.' :: rest) := by
  have hwhole : ∀ c ∈ whole, decide (c ≠ '.') = true := by
    intro c hc
    simpa using ne_point_of_isDigit (hdigits c hc)
  rw [List.span_eq_takeWhile_dropWhile, List.takeWhile_append_of_pos hwhole,
    List.dropWhile_append_of_pos hwhole, List.takeWhile_cons_of_neg (by simp),
    List.dropWhile_cons_of_neg (by simp), List.append_nil]

theorem rounds_iff_eq_ofRatio_pow {x : Binary64} (negative : Bool) (n k : Nat) :
    x.Rounds negative (n / 10 ^ k) ↔ x = Binary64.ofRatio negative n (10 ^ k) := by
  rw [← Binary64.rounds_iff_eq_ofRatio n (Nat.pow_pos (by decide)), Nat.cast_pow, Nat.cast_ofNat]

theorem eq_float_ofRatio_iff (negative : Bool) (n k : Nat) :
    v = float (Binary64.ofRatio negative n (10 ^ k)) ↔
      ∃ x : Binary64, x.Rounds negative (n / 10 ^ k) ∧ v = float x := by
  simp only [rounds_iff_eq_ofRatio_pow, exists_eq_left]

/-- Some floating point number is nearest to what a text denotes. -/
theorem IsFloating.exists_rounds {v : ℚ} (h : IsFloating t negative v) :
    ∃ x : Binary64, x.Rounds negative v := by
  cases h with
  | @whole n _ _ =>
      have hx := (rounds_iff_eq_ofRatio_pow negative n 0).2 rfl
      rw [pow_zero, pow_zero, div_one] at hx
      exact ⟨_, hx⟩
  | decimal h =>
      cases h with
      | mk => exact ⟨_, (rounds_iff_eq_ofRatio_pow _ _ _).2 rfl⟩

theorem decimal?_digits (negative : Bool) (hdigits : ∀ c ∈ digits, c.isDigit) :
    decimal? negative digits = some v ↔
      ∃ x : Binary64, x.Rounds negative (Nat.ofDigitChars 10 digits 0) ∧ v = float x := by
  have hpoint : ∀ c ∈ digits, decide (c ≠ '.') = true := by
    intro c hc
    simpa using ne_point_of_isDigit (hdigits c hc)
  have hfloat := eq_float_ofRatio_iff (v := v) negative (Nat.ofDigitChars 10 digits 0) 0
  rw [pow_zero, pow_zero, div_one] at hfloat
  rw [← hfloat, decimal?, List.span_eq_takeWhile_dropWhile, List.takeWhile_eq_self_iff.2 hpoint,
    List.dropWhile_eq_nil_iff.2 hpoint, ← Text.toNat_eq_ofDigitChars]
  exact ⟨fun h => (Option.some.inj h).symm, fun h => congrArg some h.symm⟩

theorem decimal?_point (negative : Bool) (hdigits : ∀ c ∈ whole, c.isDigit) :
    decimal? negative (whole ++ '.' :: fraction) = some v ↔
      '.' ∉ fraction ∧ whole ++ fraction ≠ [] ∧ ∃ x : Binary64, x.Rounds negative
        (Nat.ofDigitChars 10 (whole ++ fraction) 0 / 10 ^ fraction.length) ∧ v = float x := by
  rw [← eq_float_ofRatio_iff, decimal?, span_of_digits hdigits, ← Text.toNat_eq_ofDigitChars]
  by_cases hpoint : '.' ∈ fraction
  · simp [hpoint]
  · by_cases hempty : whole ++ fraction = []
    · have hboth := List.append_eq_nil_iff.1 hempty
      simp [hboth]
    · have hsome : (whole.isEmpty && fraction.isEmpty) = false := by
        rw [← Bool.not_eq_true, Bool.and_eq_true, List.isEmpty_iff, List.isEmpty_iff,
          ← List.append_eq_nil_iff]
        exact hempty
      have hcontains : fraction.contains '.' = false := by simpa using hpoint
      simp only [hcontains, hsome, Bool.false_or, Bool.false_eq_true, if_false, Option.some.injEq]
      exact ⟨fun h => ⟨hpoint, hempty, h.symm⟩, fun h => h.2.2.symm⟩

/-- Digits and points are digits alone, or digits before a first point. -/
theorem digits_or_point (h : ∀ c ∈ digits, c.isDigit ∨ c = '.') :
    (∀ c ∈ digits, c.isDigit) ∨ ∃ whole fraction : Text, digits = whole ++ '.' :: fraction ∧
      (∀ c ∈ whole, c.isDigit) ∧ ∀ c ∈ fraction, c.isDigit ∨ c = '.' := by
  induction digits with
  | nil => exact .inl (by simp)
  | cons c rest ih =>
      rw [List.forall_mem_cons] at h
      obtain ⟨hc | rfl, hrest⟩ := h
      · rcases ih hrest with hdigits | ⟨whole, fraction, rfl, hwhole, hfraction⟩
        · exact .inl (List.forall_mem_cons.2 ⟨hc, hdigits⟩)
        · exact .inr ⟨c :: whole, fraction, rfl, List.forall_mem_cons.2 ⟨hc, hwhole⟩, hfraction⟩
      · exact .inr ⟨[], rest, rfl, by simp, hrest⟩

/-- Digits are an integer if they fit, and a floating point number otherwise. -/
theorem number?_digits (negative : Bool) (hdigits : ∀ c ∈ digits, c.isDigit) :
    number? negative digits = some v ↔
      (∃ n : Int64, n.toInt = signed negative (Nat.ofDigitChars 10 digits 0) ∧ v = int n) ∨
      (¬ Fits (signed negative (Nat.ofDigitChars 10 digits 0)) ∧
        ∃ x : Binary64, x.Rounds negative (Nat.ofDigitChars 10 digits 0) ∧ v = float x) := by
  have hall : digits.all Text.isAsciiDigit = true := by
    simpa [Text.isAsciiDigit_eq_isDigit] using hdigits
  rw [← decimal?_digits negative hdigits, number?, if_pos hall, Text.toNat_eq_ofDigitChars]
  simp only [← signed.eq_1]
  generalize signed negative _ = i
  rcases ofInt_cases i with ⟨n, rfl, hok⟩ | ⟨hfits, e, herror⟩
  · have hfits : Fits n.toInt := (toInt_eq_iff.1 rfl).1
    simp [hok, hfits, Int64.toInt_inj, eq_comm]
  · have hno : ∀ n : Int64, n.toInt ≠ i := fun n hn => hfits (toInt_eq_iff.1 hn).1
    simp [herror, hfits, hno]

theorem all_digits_iff : (digits.all fun c => Text.isAsciiDigit c || c == '.') = true ↔
    ∀ c ∈ digits, c.isDigit ∨ c = '.' := by
  simp only [List.all_eq_true, Bool.or_eq_true, beq_iff_eq, Text.isAsciiDigit_eq_isDigit]

theorem number?_point (negative : Bool) (whole fraction : Text) :
    number? negative (whole ++ '.' :: fraction) = decimal? negative (whole ++ '.' :: fraction) := by
  have hall : (whole ++ '.' :: fraction).all Text.isAsciiDigit = false := by
    rw [List.all_append, List.all_cons, show Text.isAsciiDigit '.' = false from by decide,
      Bool.false_and, Bool.and_false]
  rw [number?, if_neg (by simp [hall])]

/-- What is read from digits and points is what they denote behind their sign. -/
theorem isLiteral_of_number? (hne : digits ≠ []) (hdigits : ∀ c ∈ digits, c.isDigit ∨ c = '.')
    (h : number? negative digits = some v) : IsLiteral (withSign negative digits) v := by
  rcases digits_or_point hdigits with hwhole | ⟨whole, fraction, rfl, hwhole, hfraction⟩
  · have ht := IsWhole.mk negative hne hwhole
    rcases (number?_digits negative hwhole).1 h with ⟨n, hn, rfl⟩ | ⟨hrange, x, hx, rfl⟩
    · exact .int ht hn
    · exact .float (.whole ht hrange) hx
  · rw [number?_point, decimal?_point negative hwhole] at h
    obtain ⟨hpoint, hsome, x, hx, rfl⟩ := h
    have hall : ∀ c ∈ whole ++ fraction, c.isDigit := by
      intro c hc
      rcases List.mem_append.1 hc with hc | hc
      · exact hwhole c hc
      · exact (hfraction c hc).resolve_right fun hc' => hpoint (hc' ▸ hc)
    exact .float (.decimal (.mk negative hsome hall)) hx

/-! ## Literals -/

/-- A number begins with its sign, a digit or the point, unlike a word. -/
theorem withSign_ne {d : Char} {word : Text} (negative : Bool) (hne : digits ≠ [])
    (hdigits : ∀ c ∈ digits, c.isDigit ∨ c = '.') (hd : d.isDigit = false ∧ d ≠ '.' ∧ d ≠ '-') :
    withSign negative digits ≠ d :: word := by
  obtain ⟨c, rest, rfl⟩ := List.exists_cons_of_ne_nil hne
  intro h
  cases negative with
  | true => exact hd.2.2 (List.cons.inj h).1.symm
  | false =>
      obtain ⟨rfl, -⟩ := List.cons.inj h
      rcases hdigits c List.mem_cons_self with hc | hc
      · simp [hc] at hd
      · exact hd.2.1 hc

/-- A text that is no word is read without its sign. -/
theorem ofLiteral?_withSign (htrue : withSign negative digits ≠ "true")
    (hfalse : withSign negative digits ≠ "false")
    (hsign : negative = false → ∀ rest, digits ≠ '-' :: rest) :
    ofLiteral? (withSign negative digits) =
      if digits.isEmpty || !digits.all fun c => Text.isAsciiDigit c || c == '.' then none
      else number? negative digits := by
  rw [ofLiteral?.eq_def, if_neg htrue, if_neg hfalse]
  cases negative with
  | true => rfl
  | false =>
      split
      next parts negative' digits' hparts =>
        split at hparts
        · next rest hrest => exact absurd hrest (hsign rfl rest)
        · cases hparts
          rfl

theorem exists_withSign (t : Text) : ∃ negative digits, t = withSign negative digits ∧
    (negative = false → ∀ rest, digits ≠ '-' :: rest) := by
  by_cases h : ∃ rest, t = '-' :: rest
  · obtain ⟨rest, rfl⟩ := h
    exact ⟨true, rest, rfl, nofun⟩
  · exact ⟨false, t, rfl, fun _ rest hrest => h ⟨rest, hrest⟩⟩

theorem ofLiteral?_number (negative : Bool) (hne : digits ≠ [])
    (hdigits : ∀ c ∈ digits, c.isDigit ∨ c = '.') :
    ofLiteral? (withSign negative digits) = number? negative digits := by
  have hsome : digits.isEmpty = false := by simpa using hne
  have hsign : negative = false → ∀ rest, digits ≠ '-' :: rest := by
    rintro - rest rfl
    rcases hdigits '-' List.mem_cons_self with h | h
    · exact Text.ne_minus_of_isDigit h rfl
    · exact absurd h (by decide)
  rw [ofLiteral?_withSign (withSign_ne negative hne hdigits (by decide))
    (withSign_ne negative hne hdigits (by decide)) hsign, hsome, all_digits_iff.2 hdigits]
  rfl

/-- A text is read as the value that it denotes, and as no other. -/
theorem ofLiteral?_eq_some_iff : ofLiteral? t = some v ↔ IsLiteral t v := by
  constructor
  · intro h
    by_cases htrue : t = "true"
    · rw [htrue, ofLiteral?.eq_def, if_pos rfl, Option.some.injEq] at h
      subst htrue h
      exact .bool true
    · by_cases hfalse : t = "false"
      · rw [hfalse, ofLiteral?.eq_def, if_neg (by decide), if_pos rfl, Option.some.injEq] at h
        subst hfalse h
        exact .bool false
      · obtain ⟨negative, digits, rfl, hsign⟩ := exists_withSign t
        rw [ofLiteral?_withSign htrue hfalse hsign, Option.ite_none_left_eq_some, Bool.or_eq_true,
          not_or] at h
        obtain ⟨⟨hne, hall⟩, h⟩ := h
        rw [List.isEmpty_iff] at hne
        rw [Bool.not_eq_true', Bool.not_eq_false, all_digits_iff] at hall
        exact isLiteral_of_number? hne hall h
  · intro h
    cases h with
    | bool b => cases b <;> rfl
    | int ht hi =>
        obtain ⟨negative, hne, hdigits⟩ := ht
        rw [ofLiteral?_number _ hne fun c hc => .inl (hdigits c hc), number?_digits _ hdigits]
        exact .inl ⟨_, hi, rfl⟩
    | float ht hx =>
        cases ht with
        | whole ht hrange =>
            obtain ⟨negative, hne, hdigits⟩ := ht
            rw [ofLiteral?_number _ hne fun c hc => .inl (hdigits c hc), number?_digits _ hdigits]
            exact .inr ⟨hrange, _, hx, rfl⟩
        | decimal ht =>
            obtain ⟨negative, hne, hdigits⟩ := ht
            rename_i whole fraction
            have hpoint : ∀ c ∈ whole ++ '.' :: fraction, c.isDigit ∨ c = '.' := by
              intro c hc
              rw [List.mem_append, List.mem_cons] at hc
              rcases hc with hc | rfl | hc
              · exact .inl (hdigits c (List.mem_append_left _ hc))
              · exact .inr rfl
              · exact .inl (hdigits c (List.mem_append_right _ hc))
            rw [ofLiteral?_number _ (by simp) hpoint, number?_point,
              decimal?_point _ fun c hc => hdigits c (List.mem_append_left _ hc)]
            refine ⟨fun hc => ?_, hne, _, hx, rfl⟩
            exact ne_point_of_isDigit (hdigits _ (List.mem_append_right _ hc)) rfl

/-- A text denotes no value if it is none of the words and numbers. -/
theorem ofLiteral?_eq_none_iff : ofLiteral? t = none ↔ t ≠ "true" ∧ t ≠ "false" ∧
    ∀ negative, (∀ n, ¬ IsWhole t negative n) ∧ ∀ v, ¬ IsDecimal t negative v := by
  simp only [Option.eq_none_iff_forall_ne_some, ne_eq, ofLiteral?_eq_some_iff]
  constructor
  · intro h
    refine ⟨?_, ?_, fun negative => ⟨fun n ht => ?_, fun v ht => ?_⟩⟩
    · rintro rfl
      exact h _ (.bool true)
    · rintro rfl
      exact h _ (.bool false)
    · by_cases hrange : Fits (signed negative n)
      · exact h _ (.int ht (toInt_eq_iff.2 ⟨hrange, rfl⟩))
      · obtain ⟨x, hx⟩ := (IsFloating.whole ht hrange).exists_rounds
        exact h _ (.float (.whole ht hrange) hx)
    · obtain ⟨x, hx⟩ := (IsFloating.decimal ht).exists_rounds
      exact h _ (.float (.decimal ht) hx)
  · rintro ⟨htrue, hfalse, hnumber⟩ v h
    cases h with
    | bool b =>
        cases b with
        | true => exact htrue rfl
        | false => exact hfalse rfl
    | int ht hi => exact (hnumber _).1 _ ht
    | float ht hx =>
        cases ht with
        | whole ht hrange => exact (hnumber _).1 _ ht
        | decimal ht => exact (hnumber _).2 _ ht

/-- The decimal text of an integer is a whole number. -/
theorem isWhole_ofInt (i : Int) : IsWhole (Text.ofInt i) (decide (i < 0)) i.natAbs := by
  have hsign : Text.ofInt i = withSign (decide (i < 0)) (Text.ofNat i.natAbs) := by
    simp only [Text.ofInt, withSign, decide_eq_true_eq]
  have hnumber : i.natAbs = Nat.ofDigitChars 10 (Text.ofNat i.natAbs) 0 := by
    rw [← Text.toNat_eq_ofDigitChars, Text.toNat_ofNat]
  have h := IsWhole.mk (decide (i < 0)) (Text.ofNat_ne_nil i.natAbs)
    fun c => Text.isDigit_of_mem_ofNat
  rwa [← hsign, ← hnumber] at h

theorem signed_natAbs (i : Int) : signed (decide (i < 0)) i.natAbs = i := by
  rw [signed]
  by_cases hi : i < 0
  · rw [decide_eq_true hi, if_pos rfl]
    omega
  · rw [decide_eq_false hi, if_neg (by decide)]
    omega

/-- **Literals are read exactly.** The truth values are two words. The integers are the digits
that fit in 64 bits, and the floating point numbers those that do not and those with one point,
rounded to the nearest. No other text denotes a value. Every integer is read back from its decimal
text. -/
theorem ofLiteral?_exact (t : Text) :
    (∀ b, ofLiteral? t = some (bool b) ↔ t = (if b then "true" else "false" : String)) ∧
    (∀ i, ofLiteral? t = some (int i) ↔
      ∃ negative n, IsWhole t negative n ∧ i.toInt = signed negative n) ∧
    ((∃ x, ofLiteral? t = some (float x)) ↔ ∃ negative v, IsFloating t negative v) ∧
    (∀ x, ofLiteral? t = some (float x) ↔
      ∃ negative v, IsFloating t negative v ∧ x.Rounds negative v) ∧
    (ofLiteral? t = none ↔ t ≠ "true" ∧ t ≠ "false" ∧
      ∀ negative, (∀ n, ¬ IsWhole t negative n) ∧ ∀ v, ¬ IsDecimal t negative v) ∧
    ∀ i : Int64, ofLiteral? (Text.ofInt i.toInt) = some (int i) := by
  refine ⟨fun b => ?_, fun i => ?_, ?_, fun x => ?_, ofLiteral?_eq_none_iff, fun i => ?_⟩
  all_goals simp only [ofLiteral?_eq_some_iff]
  · constructor
    · rintro ⟨b⟩
      rfl
    · rintro rfl
      exact .bool b
  · constructor
    · intro h
      cases h with
      | int h hi => exact ⟨_, _, h, hi⟩
    · rintro ⟨_, _, h, hi⟩
      exact .int h hi
  · constructor
    · rintro ⟨x, h⟩
      cases h with
      | float h => exact ⟨_, _, h⟩
    · rintro ⟨negative, v, h⟩
      obtain ⟨x, hx⟩ := h.exists_rounds
      exact ⟨x, .float h hx⟩
  · constructor
    · intro h
      cases h with
      | float h hx => exact ⟨_, _, h, hx⟩
    · rintro ⟨_, _, h, hx⟩
      exact .float h hx
  · exact .int (isWhole_ofInt i.toInt) (signed_natAbs i.toInt).symm

end TwoWaySql.Value
