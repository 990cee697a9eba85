import Mathlib.Data.List.Forall2
import TwoWaySql.Proofs.Dummy.Shape
import TwoWaySql.Proofs.Dummy.Strip
import TwoWaySql.Query.Basic

/-!
# Putting dummy literals in

A template is made to run as it stands by putting literals behind its directives. Which ones, and
behind which directives, makes no difference: stripping takes out exactly what was put in, whatever
is written inside the literals, as long as it is not another opener.

## Main definitions

* `Span.Takes` — the literals that may be put behind a comment.
* `Layout.put` — a template with literals put behind its comments.
-/
namespace TwoWaySql

namespace Shape

/-- No character of a number is one of an opener. -/
theorem IsDigits.notMem_opener {t : Text} (h : IsDigits t) : ∀ c ∈ t, c ∉ opener := by
  intro c hc hmem
  have hnone : opener.any isDigit = false := by decide
  exact List.any_eq_false.1 hnone c hmem (h.2 c hc)

/-- A literal does not end with a part of an opener. -/
theorem Matches.notMem_opener {shape : Shape} {t : Text} (h : shape.Matches t) :
    ∀ c ∈ t.getLast?, c ∉ opener := by
  cases h with
  | @list inside h =>
      rw [← List.cons_append, List.getLast?_concat]
      simp [opener]
  | @quotedString inside h =>
      rw [← List.cons_append, List.getLast?_concat]
      simp [opener]
  | placeholder => simp [opener]
  | @number sign digits fraction hs hd hf =>
      intro c hc
      rcases List.mem_append.1 (List.mem_of_getLast? hc) with hsign | hrest
      · rcases hs with rfl | rfl
        · cases hsign
        · rw [List.mem_singleton.1 hsign]
          decide
      · rcases List.mem_append.1 hrest with hdigit | hfraction
        · exact hd.notMem_opener c hdigit
        · rcases hf with rfl | ⟨places, hplaces, rfl⟩
          · cases hfraction
          · rcases List.mem_cons.1 hfraction with rfl | hplace
            · decide
            · exact hplaces.notMem_opener c hplace

end Shape

namespace Span

/-- The comment with a text put right behind it. -/
def put (s : Span) (choice : Option Text) : Span := ⟨s.inside, choice.getD [] ++ s.gap⟩

/-- Whether what is chosen for a comment may be put behind it: nothing, or a literal without an
opener where a boundary follows. -/
def Takes (s : Span) (choice : Option Text) : Prop :=
  ∀ t ∈ choice, (∃ shape : Shape, shape.Matches t) ∧ ¬ opener <:+: t ∧
    Shape.atBoundary s.gap = true

/-- What is put behind a comment is taken out again. -/
theorem Takes.strip_eq {s : Span} {choice : Option Text} (h : s.Takes choice) :
    (s.put choice).strip = s.strip := by
  cases choice with
  | none => rfl
  | some t =>
      obtain ⟨⟨shape, hshape⟩, -, hgap⟩ := h t rfl
      rw [strip, strip, put, Option.getD_some, Literal.dummy?_append hshape hgap,
        Literal.dummy?_of_atBoundary hgap]

end Span

namespace Layout

/-- The layout with texts put behind its comments. -/
def put (l : Layout) (choices : List (Option Text)) : Layout :=
  ⟨l.lead, List.zipWith Span.put l.spans choices⟩

/-- A layout with literals put in is as cutting leaves it. -/
theorem CutFrom.put {gap : Text} {spans : List Span} {choices : List (Option Text)}
    (h : CutFrom gap spans) (hc : List.Forall₂ Span.Takes spans choices) :
    CutFrom gap (List.zipWith Span.put spans choices) := by
  induction hc generalizing gap with
  | nil => exact h
  | @cons s choice spans choices htakes _ ih =>
      obtain ⟨hopen, hclose, hrest⟩ := h
      refine ⟨hopen, hclose, ?_⟩
      cases choice with
      | none => exact ih hrest
      | some t =>
          obtain ⟨⟨shape, hshape⟩, hopener, -⟩ := htakes t rfl
          exact (ih hrest).append_left hopener hshape.notMem_opener

theorem map_strip_zipWith_put {spans : List Span} {choices : List (Option Text)}
    (hc : List.Forall₂ Span.Takes spans choices) :
    (List.zipWith Span.put spans choices).map Span.strip = spans.map Span.strip := by
  induction hc with
  | nil => rfl
  | cons htakes _ ih => simp [htakes.strip_eq, ih]

end Layout

/-- **Stripping undoes putting literals in.** Put literals of any shapes, without openers in them,
behind any of the comments of a template where a boundary follows: the stripped template is that
of the template without them, and so is the query for all data in every style. -/
theorem strip_text_put {source : Text} {choices : List (Option Text)}
    (h : List.Forall₂ Span.Takes (Layout.ofText source).spans choices) :
    strip ((Layout.ofText source).put choices).text = strip source ∧
      ∀ style data, Query.build style ((Layout.ofText source).put choices).text data =
        Query.build style source data := by
  have hlayout : Layout.ofText ((Layout.ofText source).put choices).text =
      (Layout.ofText source).put choices :=
    Layout.ofText_append ((Layout.cutFrom_ofText source).put h)
  have hstrip : strip ((Layout.ofText source).put choices).text = strip source := by
    rw [strip, strip, hlayout, Layout.strip, Layout.put, Layout.map_strip_zipWith_put h,
      Layout.strip]
  refine ⟨hstrip, fun style data => ?_⟩
  rw [Query.build, Query.build, hstrip]

/-- A template that runs only once literals are put in. -/
private def bareTemplate : Text := "a = /** int .A **/ AND b IN /** in .B **/\n/** end **/c"

/-- Literals for its comments: a number with digits of another script, a list with a closer in it,
and nothing. -/
private def bareChoices : List (Option Text) :=
  [some ['-', '१', '.', '5'], some ['(', '\'', '*', '*', '/', '\'', ')'], none]

theorem strip_text_put_bare :
    List.Forall₂ Span.Takes (Layout.ofText bareTemplate).spans bareChoices ∧
    ((Layout.ofText bareTemplate).put bareChoices).text =
      "a = /** int .A **/-१.5 AND b IN /** in .B **/('**/')\n/** end **/c".toList ∧
    strip "a = /** int .A **/-१.5 AND b IN /** in .B **/('**/')\n/** end **/c" =
      strip bareTemplate := by
  have hspans : (Layout.ofText bareTemplate).spans =
      [⟨" int .A ", " AND b IN "⟩, ⟨" in .B ", "\n"⟩, ⟨" end ", "c"⟩] := by decide +kernel
  have hnumber : Shape.Matches .number (['-'] ++ (['१'] ++ ['.', '5'])) :=
    .number (.inr rfl) (by decide) (.inr ⟨['5'], by decide, rfl⟩)
  have hlist : Shape.Matches .list ('(' :: (['\'', '*', '*', '/', '\''] ++ [')'])) :=
    .list (by decide)
  have htakes : List.Forall₂ Span.Takes (Layout.ofText bareTemplate).spans bareChoices := by
    rw [hspans]
    refine .cons ?_ (.cons ?_ (.cons ?_ .nil))
    · intro t ht
      cases ht
      exact ⟨⟨.number, hnumber⟩, by decide, by decide⟩
    · intro t ht
      cases ht
      exact ⟨⟨.list, hlist⟩, by decide, by decide⟩
    · intro t ht
      cases ht
  have htext : ((Layout.ofText bareTemplate).put bareChoices).text =
      "a = /** int .A **/-१.5 AND b IN /** in .B **/('**/')\n/** end **/c".toList := by
    decide +kernel
  have hstrip := (strip_text_put htakes).1
  rw [htext] at hstrip
  exact ⟨htakes, htext, hstrip⟩

end TwoWaySql
