import Mathlib.Algebra.Ring.Parity
import Mathlib.Data.Nat.Count
import TwoWaySql.Proofs.Directive.Token

/-!
# Tokens as runs of a body

Which blanks separate is a matter of counting: those with an even number of quotes before them,
where a quote behind a backslash does not count. The tokens are the longest stretches of the body
without such a blank. Only a quote that stays open leaves blanks at the end of one, and those are
cut off. So a row of tokens is a normal form: with single spaces between them they are the tokens
of what they make up.

## Main definitions

* `Token.IsQuote`, `Token.Quoted` — the quotes that count, and the places behind an odd number of
  them.
* `Token.Separates` — the blanks that separate tokens.
* `Token.IsRun` — a longest stretch without them.
* `Token.settled` — a body without the blanks behind a quote that stays open.
-/
namespace TwoWaySql.Token

variable {body t u v : Text} {i a b : Nat}

/-! ## Quotes and separators -/

/-- Whether the character at an index is a double quote with no backslash right before it. -/
def IsQuote (body : Text) (i : Nat) : Prop :=
  body[i]? = some '"' ∧ ¬ (0 < i ∧ body[i - 1]? = some '\\')

instance (body : Text) : DecidablePred (IsQuote body) := fun _ =>
  inferInstanceAs (Decidable (_ ∧ _))

/-- Whether an odd number of quotes stands before an index. -/
def Quoted (body : Text) (i : Nat) : Prop := Odd (Nat.count (IsQuote body) i)

instance (body : Text) (i : Nat) : Decidable (Quoted body i) :=
  inferInstanceAs (Decidable (Odd _))

/-- Whether the character at an index is a blank that is not quoted. -/
def Separates (body : Text) (i : Nat) : Prop :=
  (∃ c ∈ body[i]?, isBlank c = true) ∧ ¬ Quoted body i

instance (body : Text) (i : Nat) : Decidable (Separates body i) :=
  inferInstanceAs (Decidable (_ ∧ _))

theorem not_quoted_zero (body : Text) : ¬ Quoted body 0 := by simp [Quoted]

/-- A quote turns quoting on or off, and any other character leaves it as it is. -/
theorem quoted_succ_iff :
    Quoted body (i + 1) ↔ if IsQuote body i then ¬ Quoted body i else Quoted body i := by
  rw [Quoted, Quoted, Nat.count_succ]
  by_cases h : IsQuote body i
  · simp [h, Nat.odd_add_one]
  · simp [h]

theorem not_isQuote_of_isBlank {c : Char} (h : body[i]? = some c) (hc : isBlank c = true) :
    ¬ IsQuote body i := by
  rintro ⟨hquote, -⟩
  rw [h] at hquote
  cases hquote
  exact absurd hc (by decide)

/-- A blank is quoted exactly if what follows it is. -/
theorem quoted_succ_iff_of_isBlank {c : Char} (h : body[i]? = some c) (hc : isBlank c = true) :
    Quoted body (i + 1) ↔ Quoted body i := by
  rw [quoted_succ_iff, if_neg (not_isQuote_of_isBlank h hc)]

/-- What stands behind an index plays no part for the quotes before it. -/
theorem quoted_append_iff (v : Text) (h : i ≤ u.length) : Quoted (u ++ v) i ↔ Quoted u i := by
  induction i with
  | zero => simp [not_quoted_zero]
  | succ i ih =>
      have hget : ∀ k, k < u.length → (u ++ v)[k]? = u[k]? :=
        fun k hk => List.getElem?_append_left hk
      have hquote : IsQuote (u ++ v) i ↔ IsQuote u i := by
        rw [IsQuote, IsQuote, hget i (by omega), hget (i - 1) (by omega)]
      simp only [quoted_succ_iff, hquote, ih (by omega)]

theorem separates_append_iff (v : Text) (h : i < u.length) :
    Separates (u ++ v) i ↔ Separates u i := by
  rw [Separates, Separates, List.getElem?_append_left h, quoted_append_iff v (by omega)]

/-! ## The scan of a body -/

/-- The runs that the scan of a body finds from an index on. -/
def runsFrom (body : Text) (i : Nat) : List Text :=
  runs (Quoted body i) (0 < i ∧ body[i - 1]? = some '\\') (body.drop i)

theorem runsFrom_zero (body : Text) : runsFrom body 0 = runs false false body := by
  simp [runsFrom, not_quoted_zero]

theorem runsFrom_length (body : Text) : runsFrom body body.length = [[]] := by
  simp [runsFrom, runs]

/-- **A step of the scan**: a separator ends a run, and any other character goes to the run that
the scan finds behind it. -/
theorem runsFrom_eq {c : Char} (h : body[i]? = some c) : runsFrom body i =
    if Separates body i then [] :: runsFrom body (i + 1)
    else Text.extend c (runsFrom body (i + 1)) := by
  have hdrop : body.drop i = c :: body.drop (i + 1) := by
    obtain ⟨hi, rfl⟩ := List.getElem?_eq_some_iff.1 h
    exact List.drop_eq_getElem_cons hi
  have hescapes : (0 < i + 1 ∧ body[i + 1 - 1]? = some '\\') ↔ c = '\\' := by simp [h]
  rw [runsFrom, runsFrom, hdrop, runs]
  simp only [hescapes]
  by_cases hquote : IsQuote body i
  · have hchar : c = '"' := by simpa [h] using hquote.1
    have hsep : ¬ Separates body i := by
      rintro ⟨⟨d, hd, hblank⟩, -⟩
      exact not_isQuote_of_isBlank hd hblank hquote
    have hnext : Quoted body (i + 1) ↔ ¬ Quoted body i := by rw [quoted_succ_iff, if_pos hquote]
    rw [if_neg hsep, if_pos ⟨hchar, by simpa using hquote.2⟩]
    simp [hnext]
  · have hnext : Quoted body (i + 1) ↔ Quoted body i := by rw [quoted_succ_iff, if_neg hquote]
    have hplain : ¬ (c = '"' ∧ ¬ (0 < i ∧ body[i - 1]? = some '\\')) := by
      simpa [IsQuote, h] using hquote
    have hsep : Separates body i ↔ isBlank c = true ∧ ¬ Quoted body i := by simp [Separates, h]
    rw [if_neg (by simpa using hplain)]
    simp [hsep, hnext]

/-! ## Stretches between separators -/

/-- Whether spans are the stretches from an index to the end of a body, with one separator between
neighbours. Stretches may be empty. -/
inductive Cuts (body : Text) : Nat → List (Nat × Nat) → Prop
  /-- No separator is left. -/
  | last {a : Nat} (hle : a ≤ body.length)
      (hinside : ∀ k, a ≤ k → k < body.length → ¬ Separates body k) :
      Cuts body a [(a, body.length)]
  /-- The next separator ends a stretch. -/
  | cons {a b : Nat} {spans : List (Nat × Nat)} (hle : a ≤ b)
      (hinside : ∀ k, a ≤ k → k < b → ¬ Separates body k) (hstop : Separates body b)
      (hrest : Cuts body (b + 1) spans) : Cuts body a ((a, b) :: spans)

/-- A longest stretch of a body without a separator. -/
structure IsRun (body : Text) (a b : Nat) : Prop where
  /-- It is not empty. -/
  lt : a < b
  /-- It ends with the body at the latest. -/
  le : b ≤ body.length
  /-- No character in it separates. -/
  inside : ∀ k, a ≤ k → k < b → ¬ Separates body k
  /-- The body starts with it, or a separator stands before it. -/
  starts : a = 0 ∨ Separates body (a - 1)
  /-- The body ends with it, or a separator stands behind it. -/
  stops : b = body.length ∨ Separates body b

/-- The part of a body from one index to before another. -/
def stretch (body : Text) (a b : Nat) : Text := body.extract a b

theorem lt_length_of_separates (h : Separates body i) : i < body.length := by
  obtain ⟨⟨c, hc, -⟩, -⟩ := h
  exact (List.getElem?_eq_some_iff.1 hc).1

variable {spans : List (Nat × Nat)}

theorem Cuts.exists_cons (h : Cuts body i spans) : ∃ b more, spans = (i, b) :: more := by
  cases h with
  | last => exact ⟨_, _, rfl⟩
  | cons => exact ⟨_, _, rfl⟩

/-- A character that does not separate belongs to the stretch behind it. -/
theorem Cuts.extend (hi : i < body.length) (hsep : ¬ Separates body i)
    (h : Cuts body (i + 1) ((i + 1, b) :: spans)) : Cuts body i ((i, b) :: spans) := by
  have hinside : ∀ {stop}, (∀ k, i + 1 ≤ k → k < stop → ¬ Separates body k) →
      ∀ k, i ≤ k → k < stop → ¬ Separates body k := by
    intro stop hrest k hk hstop
    by_cases heq : k = i
    · rwa [heq]
    · exact hrest k (by omega) hstop
  cases h with
  | last _ hrest => exact .last (by omega) (hinside hrest)
  | cons hle hrest hstop hmore => exact .cons (by omega) (hinside hrest) hstop hmore

/-- The scan finds the stretches between separators. -/
theorem exists_cuts (hi : i ≤ body.length) : ∃ spans, Cuts body i spans ∧
    runsFrom body i = spans.map fun s => stretch body s.1 s.2 := by
  induction hi using Nat.decreasingInduction with
  | self =>
      refine ⟨[(body.length, body.length)], .last (Nat.le_refl _) fun k _ _ => by omega, ?_⟩
      simp [runsFrom_length, stretch]
  | of_succ i hi ih =>
      obtain ⟨spans, hcuts, hruns⟩ := ih
      have hget : body[i]? = some body[i] := List.getElem?_eq_getElem hi
      rw [runsFrom_eq hget]
      by_cases hsep : Separates body i
      · refine ⟨(i, i) :: spans, .cons (Nat.le_refl i) (fun k _ _ => by omega) hsep hcuts, ?_⟩
        simp [hsep, hruns, stretch]
      · obtain ⟨b, more, rfl⟩ := hcuts.exists_cons
        refine ⟨(i, b) :: more, hcuts.extend hi hsep, ?_⟩
        have hlt : i < b := by
          cases hcuts <;> omega
        simp only [hsep, if_false, hruns, List.map_cons, Text.extend, stretch,
          List.extract_eq_take_drop]
        rw [List.drop_eq_getElem_cons hi, show b - i = (b - (i + 1)) + 1 by omega,
          List.take_succ_cons]

/-- A run in a stretch without separators is the whole of it. -/
theorem IsRun.eq_of_inside {j : Nat} (h : IsRun body a b) (hia : i ≤ a) (hbj : b ≤ j)
    (hj : j ≤ body.length) (hinside : ∀ k, i ≤ k → k < j → ¬ Separates body k) :
    a = i ∧ b = j := by
  have hlt := h.lt
  constructor
  · rcases h.starts with hzero | hsep
    · omega
    · by_contra hne
      exact hinside (a - 1) (by omega) (by omega) hsep
  · rcases h.stops with hend | hsep
    · omega
    · by_contra hne
      exact hinside b (by omega) (by omega) hsep

/-- The stretches that are not empty are the longest ones without a separator. -/
theorem Cuts.mem_iff_isRun (h : Cuts body i spans) (hi : i = 0 ∨ Separates body (i - 1)) :
    (a, b) ∈ spans ∧ a < b ↔ i ≤ a ∧ IsRun body a b := by
  induction h with
  | @last i hle hinside =>
      rw [List.mem_singleton, Prod.mk.injEq]
      constructor
      · rintro ⟨⟨rfl, rfl⟩, hlt⟩
        exact ⟨Nat.le_refl a, hlt, Nat.le_refl _, hinside, hi, .inl rfl⟩
      · rintro ⟨hia, hrun⟩
        exact ⟨hrun.eq_of_inside hia hrun.le (Nat.le_refl _) hinside, hrun.lt⟩
  | @cons i j spans hle hinside hstop _ ih =>
      have ih := ih (.inr hstop)
      have hj := lt_length_of_separates hstop
      rw [List.mem_cons, Prod.mk.injEq]
      constructor
      · rintro ⟨⟨rfl, rfl⟩ | hmem, hlt⟩
        · exact ⟨Nat.le_refl a, hlt, by omega, hinside, hi, .inr hstop⟩
        · obtain ⟨hja, hrun⟩ := ih.1 ⟨hmem, hlt⟩
          exact ⟨by omega, hrun⟩
      · rintro ⟨hia, hrun⟩
        by_cases hja : j < a
        · obtain ⟨hmem, hlt⟩ := ih.2 ⟨hja, hrun⟩
          exact ⟨.inr hmem, hlt⟩
        · -- a run that starts no later than the separator is the stretch that it ends
          have hbj : b ≤ j := by
            by_contra hgt
            exact hrun.inside j (by omega) (by omega) hstop
          exact ⟨.inl (hrun.eq_of_inside hia hbj hj.le hinside), hrun.lt⟩

theorem Cuts.le_of_mem (h : Cuts body i spans) {s : Nat × Nat} (hs : s ∈ spans) :
    i ≤ s.1 ∧ s.1 ≤ s.2 := by
  induction h with
  | last hle _ =>
      rw [List.mem_singleton.1 hs]
      exact ⟨Nat.le_refl _, hle⟩
  | cons hle _ _ _ ih =>
      rcases List.mem_cons.1 hs with rfl | hs
      · exact ⟨Nat.le_refl _, hle⟩
      · have hnext := ih hs
        omega

/-- A separator stands between neighbours. -/
theorem Cuts.pairwise (h : Cuts body i spans) : spans.Pairwise fun s s' => s.2 < s'.1 := by
  induction h with
  | last => exact List.pairwise_singleton _ _
  | cons _ _ _ hrest ih => exact List.pairwise_cons.2 ⟨fun s hs => (hrest.le_of_mem hs).1, ih⟩

/-! ## Tokens -/

/-- The token of a run. A run that goes to the end of a body inside quotes loses its last blanks. -/
def token (body : Text) : Nat × Nat → Text
  | (a, b) =>
    if b = body.length ∧ Quoted body b then (stretch body a b).trimEnd else stretch body a b

theorem stretch_ne_nil (hlt : a < b) (hle : b ≤ body.length) : stretch body a b ≠ [] := by
  rw [stretch, List.extract_eq_take_drop, ← List.length_pos_iff_ne_nil, List.length_take,
    List.length_drop]
  omega

theorem head?_stretch (hlt : a < b) : (stretch body a b).head? = body[a]? := by
  rw [stretch, List.extract_eq_take_drop, List.head?_take, if_neg (by omega), List.head?_drop]

theorem getLast?_stretch (hlt : a < b) (hle : b ≤ body.length) :
    (stretch body a b).getLast? = body[b - 1]? := by
  rw [stretch, List.extract_eq_take_drop, List.getLast?_take, if_neg (by omega),
    List.getElem?_drop, show a + (b - a - 1) = b - 1 by omega,
    List.getElem?_eq_getElem (by omega), Option.some_or]

/-- A run starts outside quotes, so it does not start with a blank. -/
theorem IsRun.isBlank_first (h : IsRun body a b) {c : Char} (hc : body[a]? = some c) :
    isBlank c = false := by
  have hquoted : ¬ Quoted body a := by
    by_cases ha : a = 0
    · rw [ha]
      exact not_quoted_zero body
    · obtain ⟨⟨d, hd, hblank⟩, hnot⟩ := h.starts.resolve_left ha
      rwa [show a = a - 1 + 1 by omega, quoted_succ_iff_of_isBlank hd hblank]
  cases hblank : isBlank c with
  | false => rfl
  | true => exact absurd ⟨⟨c, hc, hblank⟩, hquoted⟩ (h.inside a (Nat.le_refl a) h.lt)

/-- A run ends with a blank only inside quotes, at the end of the body. -/
theorem IsRun.isBlank_last (h : IsRun body a b) (hend : ¬ (b = body.length ∧ Quoted body b))
    {c : Char} (hc : body[b - 1]? = some c) : isBlank c = false := by
  have hlt := h.lt
  cases hblank : isBlank c with
  | false => rfl
  | true =>
      have hnext := quoted_succ_iff_of_isBlank hc hblank
      rw [show b - 1 + 1 = b by omega] at hnext
      have hquoted : Quoted body b := by
        by_contra hnot
        exact h.inside (b - 1) (by omega) (by omega) ⟨⟨c, hc, hblank⟩, fun hq => hnot (hnext.2 hq)⟩
      rcases h.stops with hstop | hstop
      · exact absurd ⟨hstop, hquoted⟩ hend
      · exact absurd hquoted hstop.2

/-- Trimming makes the token of a run. -/
theorem IsRun.trim_stretch (h : IsRun body a b) : (stretch body a b).trim = token body (a, b) := by
  have hfirst : ∀ c ∈ (stretch body a b).head?, isBlank c = false := by
    intro c hc
    rw [head?_stretch h.lt] at hc
    exact h.isBlank_first hc
  rw [token]
  by_cases hend : b = body.length ∧ Quoted body b
  · rw [if_pos hend, Text.trim_eq_trimEnd hfirst]
  · rw [if_neg hend]
    refine Text.trim_eq_self hfirst fun c hc => ?_
    rw [getLast?_stretch h.lt h.le] at hc
    exact h.isBlank_last hend hc

/-- The first character of a run stays in its token. -/
theorem IsRun.token_ne_nil (h : IsRun body a b) : token body (a, b) ≠ [] := by
  intro hnil
  rw [← h.trim_stretch, Text.trim_eq_nil_iff] at hnil
  obtain ⟨c, rest, hcons⟩ := List.exists_cons_of_ne_nil (stretch_ne_nil h.lt h.le)
  have hfirst : body[a]? = some c := by rw [← head?_stretch h.lt, hcons, List.head?_cons]
  have hblank := hnil c (by rw [hcons]; exact List.mem_cons_self)
  rw [h.isBlank_first hfirst] at hblank
  cases hblank

theorem Cuts.trim_stretch (h : Cuts body 0 spans) {s : Nat × Nat} (hs : s ∈ spans) :
    (stretch body s.1 s.2).trim = if s.1 < s.2 then token body s else [] := by
  by_cases hlt : s.1 < s.2
  · rw [if_pos hlt]
    exact ((h.mem_iff_isRun (.inl rfl)).1 ⟨hs, hlt⟩).2.trim_stretch
  · have heq : s.1 = s.2 := Nat.le_antisymm (h.le_of_mem hs).2 (Nat.le_of_not_lt hlt)
    rw [if_neg hlt, heq, stretch, List.extract_eq_take_drop, Nat.sub_self, List.take_zero]
    rfl

/-- The tokens are those of the runs, in their order. -/
theorem exists_runs (body : Text) : ∃ spans : List (Nat × Nat),
    (∀ a b, (a, b) ∈ spans ↔ IsRun body a b) ∧ spans.Pairwise (fun s s' => s.2 < s'.1) ∧
      all body = spans.map (token body) := by
  obtain ⟨spans, hcuts, hruns⟩ := exists_cuts (Nat.zero_le body.length)
  refine ⟨spans.filter fun s => s.1 < s.2, ?_, hcuts.pairwise.filter _, ?_⟩
  · intro a b
    rw [List.mem_filter, decide_eq_true_iff, hcuts.mem_iff_isRun (.inl rfl)]
    simp
  · have hkept : ∀ s ∈ spans, (!(stretch body s.1 s.2).trim.isEmpty) = decide (s.1 < s.2) := by
      intro s hs
      rw [hcuts.trim_stretch hs]
      by_cases hlt : s.1 < s.2
      · have hrun := ((hcuts.mem_iff_isRun (.inl rfl)).1 ⟨hs, hlt⟩).2
        simp [hlt, hrun.token_ne_nil]
      · simp [hlt]
    rw [all, ← runsFrom_zero, hruns, List.map_map, List.filter_map]
    calc
      _ = (spans.filter fun s => s.1 < s.2).map fun s => (stretch body s.1 s.2).trim :=
        congrArg _ (List.filter_congr hkept)
      _ = _ := by
        apply List.map_congr_left
        intro s hs
        obtain ⟨hmem, hlt⟩ := List.mem_filter.1 hs
        exact (hcuts.trim_stretch hmem).trans (if_pos (by simpa using hlt))

/-! ## Joining tokens -/

/-- Empty runs give no tokens. -/
theorem all_eq_trim_filter (body : Text) : all body =
    (((runs false false body).filter fun run => !run.isEmpty).map Text.trim).filter
      fun token => !token.isEmpty := by
  rw [all, List.filter_map, List.filter_map, List.filter_filter]
  refine congrArg _ (List.filter_congr fun run _ => ?_)
  cases run with
  | nil => rfl
  | cons c run => simp

/-- Inside quotes blanks are part of the run. -/
theorem runs_of_blank (hv : ∀ c ∈ v, isBlank c = true) (escaped : Bool) :
    runs true escaped v = [v] := by
  induction v generalizing escaped with
  | nil => rfl
  | cons c v ih =>
      have hquote : c ≠ '"' := by
        rintro rfl
        exact absurd (hv '"' List.mem_cons_self) (by decide)
      rw [runs]
      simp [hquote, ih fun d hd => hv d (List.mem_cons_of_mem c hd), Text.extend]

theorem extend_append_singleton (c : Char) (init : List Text) (last : Text) :
    ∃ init' last', Text.extend c (init ++ [last]) = init' ++ [last'] ∧
      ∀ v, Text.extend c (init ++ [last ++ v]) = init' ++ [last' ++ v] := by
  cases init with
  | nil => exact ⟨[], c :: last, rfl, fun _ => rfl⟩
  | cons t init => exact ⟨(c :: t) :: init, last, rfl, fun _ => rfl⟩

/-- Blanks behind a quote that stays open go to the last run. -/
theorem exists_runsFrom_append (hv : ∀ c ∈ v, isBlank c = true) (hopen : Quoted u u.length)
    (hi : i ≤ u.length) : ∃ init last, runsFrom u i = init ++ [last] ∧
      runsFrom (u ++ v) i = init ++ [last ++ v] := by
  induction hi using Nat.decreasingInduction with
  | self =>
      have hquoted : Quoted (u ++ v) u.length := (quoted_append_iff v (Nat.le_refl _)).2 hopen
      refine ⟨[], [], runsFrom_length u, ?_⟩
      rw [runsFrom, List.drop_left, decide_eq_true hquoted, runs_of_blank hv]
      rfl
  | of_succ i hi ih =>
      obtain ⟨init, last, hu, huv⟩ := ih
      have hget : u[i]? = some u[i] := List.getElem?_eq_getElem hi
      have hget' : (u ++ v)[i]? = some u[i] := by rw [List.getElem?_append_left hi, hget]
      rw [runsFrom_eq hget, runsFrom_eq hget', hu, huv]
      simp only [separates_append_iff v hi]
      by_cases hsep : Separates u i
      · exact ⟨[] :: init, last, by simp [hsep], by simp [hsep]⟩
      · obtain ⟨init', last', hinit, hlast⟩ := extend_append_singleton u[i] init last
        exact ⟨init', last', by simp [hsep, hinit], by simp [hsep, hlast]⟩

/-- A body without the blanks at its end if they stand behind a quote that stays open. -/
def settled (body : Text) : Text :=
  if Quoted body body.length then body.trimEnd else body

/-- Blanks at the end of a body are quoted if a quote before them stays open. -/
theorem quoted_append_length_iff (hv : ∀ c ∈ v, isBlank c = true) :
    Quoted (u ++ v) (u ++ v).length ↔ Quoted u u.length := by
  induction v generalizing u with
  | nil => rw [List.append_nil]
  | cons c v ih =>
      have hget : (u ++ [c])[u.length]? = some c := by simp
      have hnext := quoted_succ_iff_of_isBlank hget (hv c List.mem_cons_self)
      have hrest := ih (u := u ++ [c]) fun d hd => hv d (List.mem_cons_of_mem c hd)
      rw [List.append_cons, hrest, List.length_append, List.length_singleton, hnext,
        quoted_append_iff [c] (Nat.le_refl _)]

/-- What a settled body lacks are blanks at the end, behind a quote that stays open. -/
theorem exists_eq_settled_append (body : Text) : ∃ v, body = settled body ++ v ∧
    (∀ c ∈ v, isBlank c = true) ∧
    (v = [] ∨ Quoted (settled body) (settled body).length) := by
  by_cases hopen : Quoted body body.length
  · have hsettled : settled body = body.trimEnd := if_pos hopen
    obtain ⟨v, hbody, hv⟩ := Text.exists_eq_trimEnd_append body
    refine ⟨v, by rw [hsettled]; exact hbody, hv, .inr ?_⟩
    rw [hsettled, ← quoted_append_length_iff hv, ← hbody]
    exact hopen
  · have hsettled : settled body = body := if_neg hopen
    refine ⟨[], by rw [hsettled, List.append_nil], ?_, .inl rfl⟩
    intro c hc
    cases hc

/-- Inside quotes a settled body does not end with a blank. -/
theorem isBlank_of_mem_getLast?_settled (hopen : Quoted (settled body) (settled body).length)
    {c : Char} (hc : c ∈ (settled body).getLast?) : isBlank c = false := by
  by_cases h : Quoted body body.length
  · rw [settled, if_pos h] at hc
    exact Text.isBlank_of_mem_getLast?_trimEnd hc
  · rw [settled, if_neg h] at hopen
    exact absurd hopen h

/-- The blanks that a settled body lacks stand in no token. -/
theorem all_settled (body : Text) : all (settled body) = all body := by
  obtain ⟨v, hbody, hv, hnil | hopen⟩ := exists_eq_settled_append body
  · rw [hnil, List.append_nil] at hbody
    rw [← hbody]
  · obtain ⟨init, last, hsettled, hwhole⟩ := exists_runsFrom_append hv hopen (Nat.zero_le _)
    have htrim : (last ++ v).trim = last.trim := by
      simpa using Text.trim_append_of_blank (u := []) (by simp) last hv
    rw [← hbody] at hwhole
    rw [all, all, ← runsFrom_zero, ← runsFrom_zero, hsettled, hwhole]
    simp [htrim]

/-- In a settled body nothing is left to trim. -/
theorem IsRun.token_settled (h : IsRun (settled body) a b) :
    token (settled body) (a, b) = stretch (settled body) a b := by
  rw [token]
  by_cases hend : b = (settled body).length ∧ Quoted (settled body) b
  · rw [if_pos hend]
    refine Text.trimEnd_eq_self fun c hc => ?_
    rw [getLast?_stretch h.lt h.le, hend.1, ← List.getLast?_eq_getElem?] at hc
    exact isBlank_of_mem_getLast?_settled (hend.1 ▸ hend.2) hc
  · rw [if_neg hend]

/-- The tokens of a body are the runs that the scan of the settled body finds. -/
theorem all_eq_filter (body : Text) :
    all body = (runs false false (settled body)).filter fun run => !run.isEmpty := by
  obtain ⟨spans, hcuts, hruns⟩ := exists_cuts (Nat.zero_le (settled body).length)
  have htrim : ∀ run ∈ runs false false (settled body), run.trim = run := by
    intro run hrun
    rw [← runsFrom_zero, hruns, List.mem_map] at hrun
    obtain ⟨s, hs, rfl⟩ := hrun
    rw [hcuts.trim_stretch hs]
    by_cases hlt : s.1 < s.2
    · rw [if_pos hlt]
      exact ((hcuts.mem_iff_isRun (.inl rfl)).1 ⟨hs, hlt⟩).2.token_settled
    · have heq : s.1 = s.2 := Nat.le_antisymm (hcuts.le_of_mem hs).2 (Nat.le_of_not_lt hlt)
      simp [heq, stretch]
  rw [← all_settled, all, List.map_congr_left htrim, List.map_id']

/-- The scan leaves out the separators and nothing else. -/
theorem flatten_runsFrom (hi : i ≤ body.length) : (runsFrom body i).flatten =
    (((body.drop i).zipIdx i).filter fun p => ¬ Separates body p.2).map (·.1) := by
  induction hi using Nat.decreasingInduction with
  | self => simp [runsFrom_length]
  | of_succ i hi ih =>
      rw [runsFrom_eq (List.getElem?_eq_getElem hi), List.drop_eq_getElem_cons hi,
        List.zipIdx_cons]
      by_cases hsep : Separates body i
      · simp [hsep, ih]
      · simp [hsep, ih, Text.flatten_extend]

theorem flatten_all (body : Text) : (all body).flatten =
    ((settled body).zipIdx.filter fun p => ¬ Separates body p.2).map (·.1) := by
  obtain ⟨v, hbody, -⟩ := exists_eq_settled_append body
  have hflatten := flatten_runsFrom (Nat.zero_le (settled body).length)
  rw [all_eq_filter, List.flatten_filter_not_isEmpty, ← runsFrom_zero, hflatten, List.drop_zero]
  refine congrArg _ (List.filter_congr fun p hp => ?_)
  have hlt : p.2 < (settled body).length := by simpa using List.snd_lt_of_mem_zipIdx hp
  have hsep := separates_append_iff v hlt
  rw [← hbody] at hsep
  simp only [hsep]

/-- The runs behind the first one, each behind a space. -/
def spaced (runs : List Text) : Text := runs.flatMap fun run => ' ' :: run

theorem join_cons (run : Text) (more : List Text) :
    Text.join " " (run :: more) = run ++ spaced more := by
  induction more generalizing run with
  | nil => simp [Text.join, spaced]
  | cons next more ih =>
      rw [Text.join_cons_cons, ih, spaced, spaced, List.flatMap_cons]
      simp

/-- A space in front of runs that are there makes no difference to how the scan goes on. -/
theorem runs_spaced (escaped : Bool) (more : List Text) :
    runs false escaped (spaced more) = runs false false (spaced more) := by
  cases more with
  | nil => rfl
  | cons run more => rw [spaced, List.flatMap_cons, List.cons_append, runs_blank, runs_blank]

/-- A character goes to the run behind it, or it is a blank outside quotes and ends a run. -/
theorem runs_cons_cases (quoted escaped : Bool) (c : Char) :
    (∃ quoted', ∀ t, runs quoted escaped (c :: t) =
      Text.extend c (runs quoted' (decide (c = '\\')) t)) ∨
    (quoted = false ∧ ∀ t, runs quoted escaped (c :: t) = [] :: runs false false t) := by
  by_cases hquote : c = '"' ∧ ¬ escaped
  · exact .inl ⟨!quoted, fun t => by rw [runs, if_pos hquote]⟩
  · by_cases hsep : isBlank c = true ∧ ¬ quoted
    · have hslash : c ≠ '\\' := by
        rintro rfl
        exact absurd hsep.1 (by decide)
      have hquoted : quoted = false := by simpa using hsep.2
      refine .inr ⟨hquoted, fun t => ?_⟩
      rw [runs, if_neg hquote, if_pos hsep, hquoted, decide_eq_false hslash]
    · exact .inl ⟨quoted, fun t => by rw [runs, if_neg hquote, if_neg hsep]⟩

theorem exists_runs_eq_cons (quoted escaped : Bool) (t : Text) :
    ∃ first more, runs quoted escaped t = first :: more := by
  cases t with
  | nil => exact ⟨[], [], rfl⟩
  | cons c t =>
      rcases runs_cons_cases quoted escaped c with ⟨quoted', hstep⟩ | ⟨-, hstep⟩
      · rw [hstep]
        cases runs quoted' (decide (c = '\\')) t with
        | nil => exact ⟨[c], [], rfl⟩
        | cons first more => exact ⟨c :: first, more, rfl⟩
      · exact ⟨[], _, hstep t⟩

/-- If every blank that separates becomes one space, the scan finds the same runs but for empty
ones. -/
theorem runs_append_spaced {quoted escaped : Bool} {t first : Text} {more : List Text}
    (h : runs quoted escaped t = first :: more) :
    runs quoted escaped (first ++ spaced (more.filter fun run => !run.isEmpty)) =
      first :: more.filter fun run => !run.isEmpty := by
  induction t generalizing quoted escaped first more with
  | nil =>
      rw [runs, List.cons.injEq] at h
      obtain ⟨rfl, rfl⟩ := h
      rfl
  | cons c t ih =>
      rcases runs_cons_cases quoted escaped c with ⟨quoted', hstep⟩ | ⟨rfl, hstep⟩
      · obtain ⟨next, others, hrest⟩ := exists_runs_eq_cons quoted' (decide (c = '\\')) t
        rw [hstep, hrest, Text.extend, List.cons.injEq] at h
        obtain ⟨rfl, rfl⟩ := h
        rw [List.cons_append, hstep, ih hrest, Text.extend]
      · obtain ⟨next, others, hrest⟩ := exists_runs_eq_cons false false t
        rw [hstep, hrest, List.cons.injEq] at h
        obtain ⟨rfl, rfl⟩ := h
        have hnext := ih hrest
        rw [List.nil_append, runs_spaced]
        cases next with
        | nil => simpa using hnext
        | cons d next =>
            rw [List.filter_cons_of_pos (by simp), spaced, List.flatMap_cons, List.cons_append,
              runs_blank]
            exact congrArg _ hnext

/-- Runs that are not empty are the runs of the text in which single spaces stand between them. -/
theorem runs_join (t : Text) :
    (runs false false (Text.join " " ((runs false false t).filter fun run => !run.isEmpty))).filter
      (fun run => !run.isEmpty) = (runs false false t).filter fun run => !run.isEmpty := by
  obtain ⟨first, more, h⟩ := exists_runs_eq_cons false false t
  have hspaced := runs_append_spaced h
  rw [h]
  cases first with
  | cons c first =>
      rw [List.filter_cons_of_pos (by simp), join_cons, hspaced, List.filter_cons_of_pos (by simp),
        List.filter_filter]
      simp
  | nil =>
      rw [List.filter_cons_of_neg (by simp)]
      cases hmore : more.filter fun run => !run.isEmpty with
      | nil => rfl
      | cons next others =>
          rw [hmore, List.nil_append, spaced, List.flatMap_cons, List.cons_append, runs_blank,
            List.cons.injEq] at hspaced
          have hnext : ∀ run ∈ next :: others, run ≠ [] := by
            intro run hrun
            rw [← hmore, List.mem_filter] at hrun
            simpa using hrun.2
          rw [join_cons, spaced, hspaced.2, List.filter_eq_self]
          intro run hrun
          simpa using hnext run hrun

/-- **Tokens are a normal form of a body.** They are the longest stretches between unquoted blanks,
in order, the last one without the blanks behind a quote that stays open. None is empty or has a
blank at an end, all together they are the body without the separators and those last blanks, and
with single spaces between them they are the tokens of what they make up. -/
theorem all_normal (body : Text) :
    (∃ spans : List (Nat × Nat), (∀ a b, (a, b) ∈ spans ↔ IsRun body a b) ∧
      spans.Pairwise (fun s s' => s.2 < s'.1) ∧ all body = spans.map (token body)) ∧
    (∀ t ∈ all body, t ≠ [] ∧ ∀ c, c ∈ t.head? ∨ c ∈ t.getLast? → isBlank c = false) ∧
    (all body).flatten =
      ((settled body).zipIdx.filter fun p => ¬ Separates body p.2).map (·.1) ∧
    all (Text.join " " (all body)) = all body := by
  have hends : ∀ t ∈ all body, t ≠ [] ∧ t.trim = t := by
    intro t ht
    obtain ⟨hmem, hne⟩ := List.mem_filter.1 ht
    obtain ⟨run, -, rfl⟩ := List.mem_map.1 hmem
    exact ⟨by simpa using hne, Text.trim_trim run⟩
  refine ⟨exists_runs body, ?_, flatten_all body, ?_⟩
  · intro t ht
    obtain ⟨hne, htrim⟩ := hends t ht
    refine ⟨hne, fun c hc => ?_⟩
    rw [← htrim] at hc
    exact Text.isBlank_of_mem_ends_trim hc
  · have htokens : (all body).map Text.trim = all body := by
      rw [List.map_congr_left fun t ht => (hends t ht).2, List.map_id']
    rw [all_eq_trim_filter, all_eq_filter body, runs_join, ← all_eq_filter, htokens,
      List.filter_eq_self]
    intro t ht
    simpa using (hends t ht).1

end TwoWaySql.Token
