import TwoWaySql.Position

/-!
# The layout of a template

A directive stands in a comment that opens with `/**` and closes with the first `**/` behind it.
A template is a lead and then, for each such comment, the text inside it and the gap up to the
next one. An opener without a closer stays in the last gap.
-/
namespace TwoWaySql

/-- What opens the comment of a directive. -/
def opener : Text := ['/', '*', '*']

/-- What closes the comment of a directive. -/
def closer : Text := ['*', '*', '/']

/-- A directive comment and the text up to the next one. -/
structure Span where
  /-- The text between opener and closer. -/
  inside : Text
  /-- The text that follows the comment, up to the next comment or the end. -/
  gap : Text
deriving DecidableEq, Repr

namespace Span

/-- The comment with its delimiters. -/
def comment (s : Span) : Text := opener ++ s.inside ++ closer

/-- Whether the blanks before the comment are to go: a hyphen follows the opener. -/
def trimsLeft (s : Span) : Bool := s.inside.head? == some '-'

/-- The inside without the hyphen after the opener. -/
def unmarked (s : Span) : Text := if s.trimsLeft then s.inside.tail else s.inside

/-- Whether the blanks after the comment are to go: another hyphen stands before the closer. -/
def trimsRight (s : Span) : Bool := s.unmarked.getLast? == some '-'

/-- The inside without trim markers. -/
def body (s : Span) : Text := if s.trimsRight then s.unmarked.dropLast else s.unmarked

/-- The number of bytes from the start of the comment to its body. -/
def bodyStart (s : Span) : Nat := if s.trimsLeft then 4 else 3

/-- The comment and its gap. -/
def text (s : Span) : Text := s.comment ++ s.gap

end Span

/-- A template cut at its directive comments. -/
structure Layout where
  /-- The text before the first comment. -/
  lead : Text
  /-- The comments with the gaps behind them. -/
  spans : List Span
deriving DecidableEq, Repr

namespace Layout

/-- The template that was cut. -/
def text (l : Layout) : Text := l.lead ++ l.spans.flatMap Span.text

/-- Cuts a template at its directive comments, from the left. -/
def ofText (source : Text) : Layout :=
  match _open : source.cut opener with
  | none => ⟨source, []⟩
  | some (lead, rest) =>
    match _close : rest.cut closer with
    | none => ⟨source, []⟩
    | some (inside, rest') =>
      let next := ofText rest'
      ⟨lead, ⟨inside, next.lead⟩ :: next.spans⟩
termination_by source.length
decreasing_by
  have lead_lt := Text.length_of_cut _open
  have inside_lt := Text.length_of_cut _close
  simp only [opener, closer, List.length_cons, List.length_nil] at lead_lt inside_lt
  omega

/-- Cutting loses nothing. -/
@[simp] theorem text_ofText (source : Text) : (ofText source).text = source := by
  fun_induction ofText source with
  | case1 source h => simp [text]
  | case2 source lead rest h h' => simp [text]
  | case3 source lead rest h inside rest' h' next ih =>
    rw [Text.eq_of_cut h, Text.eq_of_cut h', ← ih]
    simp [text, Span.text, Span.comment, next]

/-- The spans behind a place, each with the place where its comment starts. -/
def locate (p : Position) : List Span → List (Position × Span)
  | [] => []
  | s :: rest => (p, s) :: locate (p.advance s.text) rest

/-- The spans of a template, each with the place where its comment starts. -/
def located (l : Layout) : List (Position × Span) := locate (Position.after l.lead) l.spans

/-- The last gap and the place where it starts, given a gap and the spans behind it. -/
def lastGap (p : Position) (gap : Text) : List Span → Position × Text
  | [] => (p, gap)
  | s :: rest => lastGap ((p.advance gap).advance s.comment) s.gap rest

/-- The place of an opener that has no closer. -/
def unclosed? (l : Layout) : Option Position :=
  let (p, gap) := lastGap Position.start l.lead l.spans
  (gap.cut opener).map fun (before, _) => p.advance before

end Layout

end TwoWaySql
