import Mathlib.Data.List.Nodup
import Mathlib.Data.Prod.Lex
import Mathlib.Order.Monotone.Defs
import TwoWaySql.Proofs.Directive.Scan
import TwoWaySql.Proofs.Offsets.Slice

/-!
# Lines and columns

A line and a column say as much as an offset. Each character leads to a later column or to a later
line, so of two places of a text the one further on comes later by line and column too, and no two
comments of a template share both. A place is found again from its line and its column: behind the
line feeds of the lines before it and the characters before it in its own.

## Main definitions

* `Text.IsBoundary` — the offsets between characters.
* `Text.offsetAt` — the offset of a line and a column.
* `Position.lineColumn` — a line and a column, in the order of lines and then of columns.
-/
namespace TwoWaySql

namespace Text

variable {t : Text}

/-- Whether an offset stands between two characters of a text, or at one of its ends. -/
def IsBoundary (t : Text) (offset : Nat) : Prop :=
  ∃ before after, t = before ++ after ∧ before.byteSize = offset

/-- The text up to the line feed number `n` and with it, and what stands behind it. -/
def spanLines : Nat → Text → Text × Text
  | 0, t => ([], t)
  | _ + 1, [] => ([], [])
  | n + 1, c :: rest =>
    let (lines, behind) := spanLines (if c = '\n' then n else n + 1) rest
    (c :: lines, behind)

/-- The offset of a line and a column: what is passed over are the line feeds of the lines before,
and then the characters of the columns before. -/
def offsetAt (t : Text) (line column : Nat) : Nat :=
  let (lines, behind) := t.spanLines (line - 1)
  lines.byteSize + byteSize (behind.take (column - 1))

theorem spanLines_append_cons (lead rest : Text) :
    spanLines (lead.count '\n' + 1) (lead ++ '\n' :: rest) = (lead ++ ['\n'], rest) := by
  induction lead with
  | nil => simp [spanLines]
  | cons c lead ih =>
      by_cases hc : c = '\n'
      · simp [spanLines, hc, ih]
      · simp [spanLines, hc, ih]

/-- The end of a prefix is found again from its line and its column. -/
theorem offsetAt_after (before rest : Text) :
    (before ++ rest).offsetAt (Position.after before).line (Position.after before).column =
      before.byteSize := by
  cases hbreak : before.lastOffsetOf? '\n' with
  | none =>
      rw [Position.after_of_not_mem (not_mem_of_lastOffsetOf? hbreak)]
      simp [offsetAt, spanLines]
  | some n =>
      obtain ⟨lead, line, rfl, hline, -⟩ := exists_of_lastOffsetOf? hbreak
      have hlines := spanLines_append_cons lead (line ++ rest)
      rw [Position.after_append_cons lead hline]
      simp [offsetAt, hlines, Nat.add_assoc]

end Text

namespace Position

variable {p q : Position} {t : Text}

/-- The line and the column of a place, in the order of lines and then of columns. -/
def lineColumn (p : Position) : Nat ×ₗ Nat := toLex (p.line, p.column)

theorem lineColumn_lt_iff : p.lineColumn < q.lineColumn ↔
    p.line < q.line ∨ p.line = q.line ∧ p.column < q.column :=
  Prod.Lex.toLex_lt_toLex

/-- A character leads to a later line, or to a later column of its line. -/
theorem lineColumn_lt_step (p : Position) (c : Char) : p.lineColumn < (p.step c).lineColumn := by
  rw [lineColumn_lt_iff, step]
  split
  · exact .inl (Nat.lt_succ_self p.line)
  · exact .inr ⟨rfl, Nat.lt_succ_self p.column⟩

theorem lineColumn_le_advance (p : Position) (t : Text) :
    p.lineColumn ≤ (p.advance t).lineColumn := by
  induction t generalizing p with
  | nil => exact le_refl _
  | cons c t ih => exact (p.lineColumn_lt_step c).le.trans (ih (p.step c))

theorem lineColumn_lt_advance (p : Position) (ht : t ≠ []) :
    p.lineColumn < (p.advance t).lineColumn := by
  obtain ⟨c, t, rfl⟩ := List.exists_cons_of_ne_nil ht
  exact (p.lineColumn_lt_step c).trans_le ((p.step c).lineColumn_le_advance t)

/-- Places of a text come in the order of their lines and columns. -/
theorem strictMonoOn_lineColumn (source : Text) :
    StrictMonoOn (fun o => (ofOffset source o).lineColumn) {o | source.IsBoundary o} := by
  rintro _ ⟨u, v, rfl, rfl⟩ _ ⟨before, after, h, rfl⟩ hlt
  obtain ⟨x, rfl, rfl⟩ := Text.exists_append_of_byteSize_le h (Nat.le_of_lt hlt)
  -- the text between the two places is what the second is further on by
  have hx : x ≠ [] := by
    rintro rfl
    simp at hlt
  dsimp only
  rw [ofOffset_byteSize_append, h, ofOffset_byteSize_append, ← advance_after]
  exact lineColumn_lt_advance _ hx

end Position

/-! ## Comments and directives -/

namespace Layout

/-- A comment of a template is located where it starts. -/
theorem ofOffset_of_mem_located {source : Text} {p : Position} {s : Span}
    (h : (p, s) ∈ (ofText source).located) :
    source.IsBoundary p.offset ∧ p = Position.ofOffset source p.offset := by
  obtain ⟨before, after, hsource, rfl⟩ := exists_text_of_mem_located h
  rw [List.append_assoc] at hsource
  refine ⟨⟨before, _, hsource, by simp⟩, ?_⟩
  rw [hsource, Position.offset_after, Position.ofOffset_byteSize_append]

/-- The comments of a template are in the order of their lines and columns. -/
theorem pairwise_lineColumn_occurrences (source : Text) :
    ((ofText source).occurrences.map fun c =>
      (Position.ofOffset source c.start).lineColumn).Pairwise (· < ·) := by
  rw [occurrences, occurrencesFrom, List.map_map, List.pairwise_map]
  refine (ofText source).pairwise_located.imp_of_mem fun {a b} ha hb hle => ?_
  have hlt : a.1.offset < b.1.offset := by
    have hpos := Span.byteSize_comment a.2
    omega
  exact Position.strictMonoOn_lineColumn source (ofOffset_of_mem_located ha).1
    (ofOffset_of_mem_located hb).1 hlt

end Layout

namespace Directive

variable {source : Text} {d : Directive}

/-- A directive is placed where its comment starts. -/
theorem ofOffset_of_mem_all (h : d ∈ all source) : source.IsBoundary d.position.offset ∧
    d.position = Position.ofOffset source d.position.offset := by
  obtain ⟨⟨p, s⟩, hmem, hd⟩ := List.mem_filterMap.1 h
  rw [position_of_ofSpan? hd]
  exact Layout.ofOffset_of_mem_located hmem

/-- The directives of a template are in the order of their lines and columns. -/
theorem pairwise_lineColumn_all (source : Text) :
    ((all source).map fun d => d.position.lineColumn).Pairwise (· < ·) := by
  rw [List.pairwise_map]
  refine (pairwise_all source).imp_of_mem fun {d d'} hd hd' hlt => ?_
  obtain ⟨hboundary, hplace⟩ := ofOffset_of_mem_all hd
  obtain ⟨hboundary', hplace'⟩ := ofOffset_of_mem_all hd'
  rw [hplace, hplace']
  exact Position.strictMonoOn_lineColumn source hboundary hboundary' hlt

end Directive

namespace Position

/-- **A line and a column say where.** Of two places of a text the one with the larger offset comes
later by line and column, the offsets being those between characters, the end included. The line
counts the line feeds before the place and the column the characters behind the last of them, and
skipping as many leads back to the offset. So the comments of a template are in the order of their
lines and columns, and no two of its directives, which are placed where their comments start, share
both. -/
theorem lineColumn_exact (source : Text) :
    StrictMonoOn (fun o => (ofOffset source o).lineColumn) {o | source.IsBoundary o} ∧
    (∀ o, source.IsBoundary o → at? source o = some (ofOffset source o) ∧
      source.offsetAt (ofOffset source o).line (ofOffset source o).column = o) ∧
    ((Layout.ofText source).occurrences.map fun c =>
      (ofOffset source c.start).lineColumn).Pairwise (· < ·) ∧
    ((Directive.all source).map fun d => d.position.lineColumn).Pairwise (· < ·) ∧
    ((Directive.all source).map fun d => (d.position.line, d.position.column)).Nodup ∧
    ∀ d ∈ Directive.all source, source.IsBoundary d.position.offset ∧
      d.position = ofOffset source d.position.offset := by
  have hdirectives := Directive.pairwise_lineColumn_all source
  refine ⟨strictMonoOn_lineColumn source, ?_, Layout.pairwise_lineColumn_occurrences source,
    hdirectives, ?_, fun _ => Directive.ofOffset_of_mem_all⟩
  · rintro _ ⟨before, rest, rfl, rfl⟩
    rw [ofOffset_byteSize_append]
    exact ⟨at?_append before rest, Text.offsetAt_after before rest⟩
  · have hpairs := hdirectives.nodup.map ofLex.injective
    rwa [List.map_map] at hpairs

/-- A carriage return is a character of its line, and a letter of two bytes is one column. -/
theorem lineColumn_exact_accents :
    Text.IsBoundary "é\r\nß" 3 ∧ Text.IsBoundary "é\r\nß" 6 ∧
      (ofOffset "é\r\nß" 3).lineColumn < (ofOffset "é\r\nß" 6).lineColumn ∧
      Text.offsetAt "é\r\nß" 2 2 = 6 := by
  have hreturn : Text.IsBoundary "é\r\nß" 3 := ⟨"é\r", "\nß", by decide, by decide⟩
  have hend : Text.IsBoundary "é\r\nß" 6 := ⟨"é\r\nß", [], by decide, by decide⟩
  have hplace : ofOffset "é\r\nß" 6 = ⟨6, 2, 2⟩ := by decide
  obtain ⟨hmono, hback, -⟩ := lineColumn_exact "é\r\nß"
  have hoffset := (hback 6 hend).2
  rw [hplace] at hoffset
  exact ⟨hreturn, hend, hmono hreturn hend (by decide), hoffset⟩

end Position

end TwoWaySql
