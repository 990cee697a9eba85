import TwoWaySql.Directive.Layout

/-!
# Slices that are checked

A program that reads a text by offsets asks for the text between two of them. It stops if they are
not in order, if one lies behind the end, or if one lies inside the bytes of a character. Here such
a slice is missing, and a step of a program that needs a missing slice has no result.

## Main definitions

* `Text.slice?` — the slice between two offsets, if there is one.
* `Text.offsetOf?`, `Text.lastOffsetOf?` — where a search finds something.
* `Position.at?` — the place at an offset.
-/
namespace TwoWaySql

namespace Text

variable {t u v part before after : Text} {c : Char} {n start stop : Nat}

/-! ## Boundaries -/

/-- The text before and behind an offset, if no character lies across it. -/
def split? : Text → Nat → Option (Text × Text)
  | t, 0 => some ([], t)
  | [], _ + 1 => none
  | c :: rest, n + 1 =>
    if c.utf8Size ≤ n + 1 then
      (split? rest (n + 1 - c.utf8Size)).map fun (before, after) => (c :: before, after)
    else none

theorem split?_append (before after : Text) :
    split? (before ++ after) before.byteSize = some (before, after) := by
  induction before with
  | nil => cases after <;> rfl
  | cons c before ih =>
      obtain ⟨n, hn⟩ : ∃ n, c.utf8Size + byteSize before = n + 1 :=
        ⟨c.utf8Size + byteSize before - 1, by have := Char.utf8Size_pos c; omega⟩
      have hle : c.utf8Size ≤ n + 1 := by omega
      have hrest : n + 1 - c.utf8Size = byteSize before := by omega
      rw [byteSize_cons, hn, List.cons_append, split?, if_pos hle, hrest, ih]
      rfl

/-- A text is split exactly at the ends of its prefixes. -/
theorem split?_eq_some_iff :
    split? t n = some (before, after) ↔ t = before ++ after ∧ before.byteSize = n := by
  constructor
  · intro h
    induction t generalizing n before after with
    | nil =>
        cases n with
        | zero =>
            cases h
            exact ⟨rfl, rfl⟩
        | succ n => cases h
    | cons c rest ih =>
        cases n with
        | zero =>
            cases h
            exact ⟨rfl, rfl⟩
        | succ n =>
            rw [split?] at h
            split at h
            · next hle =>
              obtain ⟨⟨b, a⟩, hb, heq⟩ := Option.map_eq_some_iff.1 h
              obtain ⟨rfl, hsize⟩ := ih hb
              cases heq
              exact ⟨rfl, by rw [byteSize_cons, hsize]; omega⟩
            · cases h
  · rintro ⟨rfl, rfl⟩
    exact split?_append before after

/-- The slice between two offsets: they stand in order, in the text, and between characters. -/
def slice? (t : Text) (start stop : Nat) : Option Text :=
  if start ≤ stop then do
    let (before, _) ← t.split? stop
    let (_, part) ← before.split? start
    return part
  else none

/-- There is a slice exactly where a part of the text starts and stops. -/
theorem slice?_eq_some_iff : t.slice? start stop = some part ↔
    ∃ before after, t = before ++ part ++ after ∧ before.byteSize = start ∧
      (before ++ part).byteSize = stop := by
  rw [slice?]
  constructor
  · intro h
    split at h
    · obtain ⟨⟨whole, after⟩, hstop, h⟩ := Option.bind_eq_some_iff.1 h
      obtain ⟨⟨before, part'⟩, hstart, h⟩ := Option.bind_eq_some_iff.1 h
      cases h
      obtain ⟨rfl, hwhole⟩ := split?_eq_some_iff.1 hstop
      obtain ⟨rfl, hbefore⟩ := split?_eq_some_iff.1 hstart
      exact ⟨before, after, rfl, hbefore, hwhole⟩
    · cases h
  · rintro ⟨before, after, rfl, rfl, rfl⟩
    rw [if_pos (by simp), split?_append]
    simp [split?_append]

/-- Neither inside a character nor backwards there is a slice. -/
example : slice? "aé" 1 3 = some "é" ∧ slice? "aé" 1 2 = none ∧ slice? "aé" 3 1 = none := by decide

/-- The slice of a part is the part. -/
theorem slice?_append (before part after : Text) (hstart : start = before.byteSize)
    (hstop : stop = (before ++ part).byteSize) :
    (before ++ part ++ after).slice? start stop = some part :=
  slice?_eq_some_iff.2 ⟨before, after, rfl, hstart.symm, hstop.symm⟩

/-- The slice from the end of a prefix to the end is the rest. -/
theorem slice?_rest (before rest : Text) (hstart : start = before.byteSize)
    (hstop : stop = (before ++ rest).byteSize) :
    (before ++ rest).slice? start stop = some rest := by
  simpa using slice?_append before rest [] hstart hstop

theorem add_byteSize_of_slice? (h : t.slice? start stop = some part) :
    start + part.byteSize = stop := by
  obtain ⟨before, after, -, rfl, rfl⟩ := slice?_eq_some_iff.1 h
  rw [byteSize_append]

/-! ## Searching -/

/-- The offset of the first occurrence of a pattern. -/
def offsetOf? (t pattern : Text) : Option Nat :=
  (t.cut pattern).map fun (before, _) => before.byteSize

theorem offsetOf?_le {pattern : Text} (h : t.offsetOf? pattern = some n) :
    n + pattern.byteSize ≤ t.byteSize := by
  obtain ⟨⟨before, after⟩, hcut, hn⟩ := Option.map_eq_some_iff.1 h
  have hn : before.byteSize = n := hn
  rw [eq_of_cut hcut, byteSize_append, byteSize_append]
  omega

/-- The offset of the last occurrence of a character. -/
def lastOffsetOf? (c : Char) : Text → Option Nat
  | [] => none
  | d :: rest =>
    match lastOffsetOf? c rest with
    | some n => some (d.utf8Size + n)
    | none => if d = c then some 0 else none

theorem not_mem_of_lastOffsetOf? (h : lastOffsetOf? c t = none) : c ∉ t := by
  induction t with
  | nil => simp
  | cons d rest ih =>
      rw [lastOffsetOf?] at h
      cases hrest : lastOffsetOf? c rest with
      | some n => simp [hrest] at h
      | none =>
          have hd : d ≠ c := by simpa [hrest] using h
          exact List.not_mem_cons_of_ne_of_not_mem (Ne.symm hd) (ih hrest)

/-- Behind the last occurrence there is none. -/
theorem exists_of_lastOffsetOf? (h : lastOffsetOf? c t = some n) :
    ∃ before after, t = before ++ c :: after ∧ c ∉ after ∧ before.byteSize = n := by
  induction t generalizing n with
  | nil => cases h
  | cons d rest ih =>
      rw [lastOffsetOf?] at h
      cases hrest : lastOffsetOf? c rest with
      | some m =>
          obtain ⟨before, after, rfl, hafter, rfl⟩ := ih hrest
          have hn : d.utf8Size + before.byteSize = n := by simpa [hrest] using h
          exact ⟨d :: before, after, rfl, hafter, hn⟩
      | none =>
          obtain ⟨rfl, rfl⟩ : d = c ∧ 0 = n := by simpa [hrest] using h
          exact ⟨[], rest, rfl, not_mem_of_lastOffsetOf? hrest, rfl⟩

end Text

/-! ## Places -/

namespace Position

variable {p : Position} {t : Text}

theorem advance_of_not_mem (h : '\n' ∉ t) :
    p.advance t = ⟨p.offset + t.byteSize, p.line, p.column + t.length⟩ := by
  induction t generalizing p with
  | nil => rfl
  | cons c t ih =>
      obtain ⟨hc, ht⟩ := not_or.1 (mt List.mem_cons.2 h)
      rw [advance_cons, ih ht, step, if_neg (Ne.symm hc)]
      simp only [Text.byteSize_cons, List.length_cons, mk.injEq, true_and]
      omega

theorem line_advance (p : Position) (t : Text) : (p.advance t).line = p.line + t.count '\n' := by
  induction t generalizing p with
  | nil => rfl
  | cons c t ih =>
      rw [advance_cons, ih, step, List.count_cons]
      by_cases hc : c = '\n'
      · simp only [hc, if_true, beq_self_eq_true]
        omega
      · simp [hc]

/-- The place behind a text of one line. -/
theorem after_of_not_mem (h : '\n' ∉ t) : after t = ⟨t.byteSize, 1, t.length + 1⟩ := by
  rw [after, advance_of_not_mem h]
  simp [start, Nat.add_comm]

/-- The place behind a text whose last line starts behind a line feed. -/
theorem after_append_cons (lead : Text) {line : Text} (h : '\n' ∉ line) :
    after (lead ++ '\n' :: line) =
      ⟨(lead ++ '\n' :: line).byteSize, lead.count '\n' + 2, line.length + 1⟩ := by
  have hbreak : (after lead).step '\n' =
      ⟨lead.byteSize + Char.utf8Size '\n', lead.count '\n' + 2, 1⟩ := by
    rw [step, if_pos rfl, offset_after, after, line_advance]
    simp only [start, mk.injEq, true_and, and_true]
    omega
  rw [← advance_after, advance_cons, hbreak, advance_of_not_mem h]
  simp [Nat.add_assoc, Nat.add_comm 1]

/-- The place at an offset: the line from the breaks before it, the column from the characters
between the last of them and it. -/
def at? (source : Text) (offset : Nat) : Option Position := do
  let before ← source.slice? 0 offset
  let lineStart := match before.lastOffsetOf? '\n' with
    | some i => i + 1
    | none => 0
  let line ← before.slice? lineStart before.byteSize
  return ⟨offset, before.count '\n' + 1, line.length + 1⟩

/-- The place at the end of a prefix is the one behind the prefix. -/
theorem at?_append (before rest : Text) :
    at? (before ++ rest) before.byteSize = some (after before) := by
  have hbefore : (before ++ rest).slice? 0 before.byteSize = some before :=
    Text.slice?_append [] before rest rfl rfl
  rw [at?, hbefore, Option.bind_eq_bind, Option.bind_some]
  cases hbreak : before.lastOffsetOf? '\n' with
  | none =>
      have hline := Text.not_mem_of_lastOffsetOf? hbreak
      have hslice : before.slice? 0 before.byteSize = some before :=
        Text.slice?_rest [] before rfl rfl
      simp [hslice, after_of_not_mem hline, List.count_eq_zero_of_not_mem hline]
  | some n =>
      obtain ⟨lead, line, rfl, hline, rfl⟩ := Text.exists_of_lastOffsetOf? hbreak
      have hnewline : Char.utf8Size '\n' = 1 := by decide
      have hslice : (lead ++ '\n' :: line).slice? (lead.byteSize + 1)
          (lead ++ '\n' :: line).byteSize = some line := by
        rw [List.append_cons]
        exact Text.slice?_rest (lead ++ ['\n']) line (by simp [hnewline]) rfl
      have hcount : (lead ++ '\n' :: line).count '\n' = lead.count '\n' + 1 := by
        simp [List.count_eq_zero_of_not_mem hline]
      simp only [hslice, Option.bind_some, hcount, after_append_cons lead hline]
      rfl

end Position

end TwoWaySql
