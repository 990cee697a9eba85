import Mathlib.Data.List.TakeWhile
import TwoWaySql.Proofs.Dummy.Shape
import TwoWaySql.Proofs.Dummy.Strip

/-!
# The literal that is read

Reading takes the longest literal of a shape that a text starts with, and gives nothing only if
there is none. For a list or a string there is just one to take; the digits of a number go on as far
as they can, and so does its fraction. A text starts with literals of one shape at most. Hence the
literal that is found does not depend on the order in which the shapes are tried.
-/
namespace TwoWaySql

namespace Shape

variable {shape : Shape} {t literal rest word : Text}

/-! ## What is read is a literal -/

theorem exists_of_spanTo {last : Char} (h : spanTo last t = some (literal, rest)) :
    ∃ inside, last ∉ inside ∧ literal = inside ++ [last] := by
  induction t generalizing literal rest with
  | nil => cases h
  | cons c t ih =>
      rw [spanTo] at h
      by_cases hc : c = last
      · rw [if_pos hc] at h
        cases h
        exact ⟨[], by simp, by rw [hc, List.nil_append]⟩
      · rw [if_neg hc] at h
        obtain ⟨⟨l, r⟩, hspan, heq⟩ := Option.map_eq_some_iff.1 h
        cases heq
        obtain ⟨inside, hinside, rfl⟩ := ih hspan
        refine ⟨c :: inside, ?_, rfl⟩
        simp [hinside, Ne.symm hc]

theorem isDigit_of_mem_spanDigits (t : Text) : ∀ c ∈ (spanDigits t).1, isDigit c = true := by
  intro c hc
  rw [spanDigits, List.span_eq_takeWhile_dropWhile] at hc
  exact List.mem_takeWhile_imp hc

theorem isFraction_spanFraction (t : Text) : (spanFraction t).1 = [] ∨
    ∃ places, IsDigits places ∧ (spanFraction t).1 = '.' :: places := by
  unfold spanFraction
  split
  · next rest =>
    have hdigits := isDigit_of_mem_spanDigits rest
    split
    · exact .inl rfl
    · next digits rest' hne h =>
      rw [h] at hdigits
      exact .inr ⟨digits, ⟨hne, hdigits⟩, rfl⟩
  · exact .inl rfl

theorem exists_of_spanNumber (h : spanNumber t = some (literal, rest)) :
    ∃ digits fraction, IsDigits digits ∧
      (fraction = [] ∨ ∃ places, IsDigits places ∧ fraction = '.' :: places) ∧
      literal = digits ++ fraction := by
  have hdigits := isDigit_of_mem_spanDigits t
  rw [spanNumber] at h
  split at h
  · cases h
  · next digits rest' hne hspan =>
    rw [hspan] at hdigits
    cases h
    exact ⟨digits, (spanFraction rest').1, ⟨hne, hdigits⟩, isFraction_spanFraction rest', rfl⟩

/-- What is read as a literal of a shape is one. -/
theorem matches_of_read? (h : shape.read? t = some (literal, rest)) : shape.Matches literal := by
  unfold read? at h
  split at h
  · obtain ⟨⟨l, r⟩, hspan, heq⟩ := Option.map_eq_some_iff.1 h
    cases heq
    obtain ⟨inside, hinside, rfl⟩ := exists_of_spanTo hspan
    exact .list hinside
  · obtain ⟨⟨l, r⟩, hspan, heq⟩ := Option.map_eq_some_iff.1 h
    cases heq
    obtain ⟨inside, hinside, rfl⟩ := exists_of_spanTo hspan
    exact .quotedString hinside
  · obtain ⟨⟨l, r⟩, hspan, heq⟩ := Option.map_eq_some_iff.1 h
    cases heq
    obtain ⟨digits, fraction, hdigits, hfraction, rfl⟩ := exists_of_spanNumber hspan
    exact @Matches.number ['-'] digits fraction (.inr rfl) hdigits hfraction
  · obtain ⟨digits, fraction, hdigits, hfraction, rfl⟩ := exists_of_spanNumber h
    exact @Matches.number [] digits fraction (.inl rfl) hdigits hfraction
  · cases h
    exact .placeholder
  · cases h

/-! ## No literal is longer -/

theorem spanDigits_append_of_forall {digits : Text} (h : ∀ c ∈ digits, isDigit c = true)
    (rest : Text) :
    spanDigits (digits ++ rest) = (digits ++ (spanDigits rest).1, (spanDigits rest).2) := by
  simp [spanDigits, List.span_eq_takeWhile_dropWhile, List.takeWhile_append_of_pos h,
    List.dropWhile_append_of_pos h]

/-- The digits of a number are read as far as they go, and its fraction with them. -/
theorem exists_spanNumber_append {digits fraction : Text} (hd : IsDigits digits)
    (hf : fraction = [] ∨ ∃ places, IsDigits places ∧ fraction = '.' :: places) (rest : Text) :
    ∃ literal rest', spanNumber (digits ++ fraction ++ rest) = some (literal, rest') ∧
      digits ++ fraction <+: literal := by
  obtain ⟨c, digits, rfl⟩ := List.exists_cons_of_ne_nil hd.1
  rcases hf with rfl | ⟨places, hplaces, rfl⟩
  · rw [List.append_nil, spanNumber, spanDigits_append_of_forall hd.2]
    exact ⟨_, _, rfl, by rw [List.append_assoc]; exact List.prefix_append _ _⟩
  · have hpoint : spanDigits ('.' :: places ++ rest) = ([], '.' :: places ++ rest) := by
      have hdigit : isDigit '.' = false := by decide
      simp [spanDigits, List.span_eq_takeWhile_dropWhile, hdigit]
    have hplace := spanDigits_append_of_forall hplaces.2 rest
    obtain ⟨d, places, rfl⟩ := List.exists_cons_of_ne_nil hplaces.1
    rw [List.append_assoc, spanNumber, spanDigits_append_of_forall hd.2, hpoint]
    simp only [List.append_nil, List.cons_append, spanFraction] at hplace ⊢
    rw [hplace]
    exact ⟨_, _, rfl, ⟨(spanDigits rest).1, by simp⟩⟩

/-- A literal that ends with a closing mark is read whole, whatever follows. -/
theorem Matches.read?_append_of_ne_number (h : shape.Matches word) (hshape : shape ≠ .number)
    (rest : Text) : shape.read? (word ++ rest) = some (word, rest) := by
  cases h with
  | list h => simp [read?, spanTo_append h]
  | quotedString h => simp [read?, spanTo_append h]
  | placeholder => rfl
  | number => exact absurd rfl hshape

/-- Of a text that starts with a literal of a shape no less is read. -/
theorem Matches.exists_read?_append (h : shape.Matches word) (rest : Text) :
    ∃ literal rest', shape.read? (word ++ rest) = some (literal, rest') ∧ word <+: literal := by
  by_cases hshape : shape = .number
  · subst hshape
    cases h with
    | @number sign digits fraction hs hd hf =>
        obtain ⟨literal, rest', hspan, hprefix⟩ := exists_spanNumber_append hd hf rest
        rcases hs with rfl | rfl
        · obtain ⟨c, digits, rfl⟩ := List.exists_cons_of_ne_nil hd.1
          have hc : c ≠ '-' := by
            intro heq
            exact absurd (hd.2 c List.mem_cons_self) (by rw [heq]; decide)
          exact ⟨literal, rest', by simpa [read?, hc] using hspan, hprefix⟩
        · refine ⟨'-' :: literal, rest', ?_, List.cons_prefix_cons.2 ⟨rfl, hprefix⟩⟩
          simp only [List.append_assoc] at hspan
          simp [read?, hspan]
  · exact ⟨word, rest, h.read?_append_of_ne_number hshape rest, List.prefix_rfl⟩

end Shape

namespace Literal

variable {t : Text} {l : Literal} {order : List Shape}

/-- A text starts with no literal exactly if no literal of any shape is a prefix of it. -/
theorem starting?_eq_none_iff :
    starting? t = none ↔ ∀ (shape : Shape) (word : Text), shape.Matches word → ¬ word <+: t := by
  constructor
  · intro h shape word hword hprefix
    obtain ⟨rest, rfl⟩ := hprefix
    obtain ⟨literal, rest', hread, -⟩ := hword.exists_read?_append rest
    have hsome := starting?_eq_some_iff (l := ⟨shape, literal, rest'⟩).2 hread
    rw [h] at hsome
    cases hsome
  · intro h
    cases hstarting : starting? t with
    | none => rfl
    | some l =>
        have hread := starting?_eq_some_iff.1 hstarting
        have happend := Shape.eq_append_of_read? hread
        exact absurd ⟨l.rest, happend.symm⟩ (h l.shape l.text (Shape.matches_of_read? hread))

/-- The literal that a text starts with is a literal of its shape, and the longest one. -/
theorem longest_of_starting? (h : starting? t = some l) :
    l.shape.Matches l.text ∧ t = l.text ++ l.rest ∧
      ∀ word, l.shape.Matches word → word <+: t → word <+: l.text := by
  have hread := starting?_eq_some_iff.1 h
  refine ⟨Shape.matches_of_read? hread, Shape.eq_append_of_read? hread, ?_⟩
  intro word hword hprefix
  obtain ⟨rest, rfl⟩ := hprefix
  obtain ⟨literal, rest', hread', hlonger⟩ := hword.exists_read?_append rest
  rw [hread] at hread'
  cases hread'
  exact hlonger

/-- In whatever order the shapes are tried, the dummy literal of a text is the literal of a shape
that it starts with and that a boundary follows. -/
theorem dummyIn?_eq_some_iff_matches (h : order.Perm Shape.all) : dummyIn? order t = some l ↔
    l.shape.Matches l.text ∧ t = l.text ++ l.rest ∧ Shape.atBoundary l.rest = true := by
  rw [dummyIn?_eq_some_iff h]
  constructor
  · rintro ⟨hread, hboundary⟩
    exact ⟨Shape.matches_of_read? hread, Shape.eq_append_of_read? hread, hboundary⟩
  · rintro ⟨hmatches, rfl, hboundary⟩
    exact ⟨hmatches.read?_append hboundary, hboundary⟩

/-- The order in which the shapes are tried makes no difference to the literal that is found. -/
theorem startingIn?_eq (h : order.Perm Shape.all) (t : Text) :
    startingIn? order t = starting? t := by
  ext l
  rw [startingIn?_eq_some_iff h, starting?_eq_some_iff]

theorem dummyIn?_eq (h : order.Perm Shape.all) (t : Text) : dummyIn? order t = dummy? t := by
  ext l
  rw [dummyIn?_eq_some_iff h, dummy?_eq_some_iff]

end Literal

/-! ## Stripping in any order -/

/-- What stripping makes of a comment at a place, the shapes being tried in an order: the comment
with what is left of its gap, and the literal that stays. -/
def Span.stripIn (order : List Shape) (position : Position) (s : Span) : Span × Option Unstripped :=
  match Literal.dummyIn? order s.gap with
  | some literal => (⟨s.inside, literal.rest⟩, none)
  | none =>
    (s, (Literal.startingIn? order s.gap).map fun literal =>
      ⟨literal.shape, literal.text, position.advance s.comment⟩)

/-- The stripped template and the literals left in place, the shapes being tried in an order. -/
def stripIn (order : List Shape) (source : Text) : Text × List Unstripped :=
  let l := Layout.ofText source
  let spans := l.located.map fun (p, s) => s.stripIn order p
  (Layout.text ⟨l.lead, spans.map (·.1)⟩, spans.filterMap (·.2))

variable {order : List Shape}

theorem Span.stripIn_eq (h : order.Perm Shape.all) (position : Position) (s : Span) :
    s.stripIn order position = (s.strip, s.unstripped? position) := by
  rw [stripIn, strip, unstripped?, Literal.dummyIn?_eq h, Literal.startingIn?_eq h]
  cases Literal.dummy? s.gap <;> rfl

theorem stripIn_eq (h : order.Perm Shape.all) (source : Text) :
    stripIn order source = (strip source, unstripped source) := by
  have hspans : (Layout.ofText source).located.map (fun (p, s) => s.stripIn order p) =
      (Layout.ofText source).located.map fun (p, s) => (s.strip, s.unstripped? p) :=
    List.map_congr_left fun (p, s) _ => s.stripIn_eq h p
  have hstrip := congrArg (List.map Span.strip) (Layout.ofText source).map_located
  rw [List.map_map] at hstrip
  simp only [stripIn, hspans, List.map_map, List.filterMap_map]
  rw [strip, Layout.strip, ← hstrip]
  rfl

/-- Whether the first `n` bytes of a text are a literal of the shape, with a boundary behind. -/
def Shape.StandsIn (shape : Shape) (n : Nat) (t : Text) : Prop :=
  ∃ word rest, t = word ++ rest ∧ word.byteSize = n ∧ shape.Matches word ∧
    Shape.atBoundary rest = true

/-- **The shapes can be tried in any order.** In each order the dummy literal found in a text is the
one literal of a shape that the text starts with in front of a boundary, and there are no two of
them, of one shape or of several. The literal that stays is found in each order too, and so
stripping gives the same text and the same report. -/
theorem Literal.found_in_any_order (h : order.Perm Shape.all) :
    (∀ t shape n, (dummyIn? order t).map (fun l => (l.shape, l.text.byteSize)) = some (shape, n) ↔
      shape.StandsIn n t) ∧
    (∀ t (shape shape' : Shape) n n', shape.StandsIn n t → shape'.StandsIn n' t →
      shape = shape' ∧ n = n') ∧
    (∀ t, dummyIn? order t = dummy? t) ∧ (∀ t, startingIn? order t = starting? t) ∧
    ∀ source, stripIn order source = (strip source, unstripped source) := by
  have hiff : ∀ t shape n,
      (dummyIn? order t).map (fun l => (l.shape, l.text.byteSize)) = some (shape, n) ↔
        shape.StandsIn n t := by
    intro t shape n
    rw [Option.map_eq_some_iff]
    constructor
    · rintro ⟨l, hl, heq⟩
      cases heq
      obtain ⟨hmatches, happend, hboundary⟩ := (dummyIn?_eq_some_iff_matches h).1 hl
      exact ⟨l.text, l.rest, happend, rfl, hmatches, hboundary⟩
    · rintro ⟨word, rest, happend, rfl, hmatches, hboundary⟩
      exact ⟨⟨shape, word, rest⟩,
        (dummyIn?_eq_some_iff_matches h).2 ⟨hmatches, happend, hboundary⟩, rfl⟩
  refine ⟨hiff, ?_, dummyIn?_eq h, startingIn?_eq h, stripIn_eq h⟩
  intro t shape shape' n n' hstands hstands'
  have heq := ((hiff t shape n).2 hstands).symm.trans ((hiff t shape' n').2 hstands')
  cases heq
  exact ⟨rfl, rfl⟩

private def backwards : List Shape := [.placeholder, .number, .quotedString, .list]

theorem Literal.found_in_any_order_backwards : backwards.Perm Shape.all ∧
    Shape.number.StandsIn 6 "-१.5 b" ∧
    (dummyIn? backwards "-१.5 b").map (fun l => (l.shape, l.text.byteSize)) = some (.number, 6) ∧
    (stripIn backwards "/** int .A **/-१.5 b /** int .B **/2,").1 =
      strip "/** int .A **/-१.5 b /** int .B **/2," := by
  have hperm : backwards.Perm Shape.all := by decide
  obtain ⟨hiff, -, -, -, hstrip⟩ := found_in_any_order hperm
  have hstands : Shape.number.StandsIn 6 "-१.5 b" := by
    refine ⟨['-'] ++ (['१'] ++ ['.', '5']), [' ', 'b'], by decide, by decide, ?_, by decide⟩
    exact .number (.inr rfl) (by decide) (.inr ⟨['5'], by decide, rfl⟩)
  exact ⟨hperm, hstands, (hiff _ _ _).2 hstands, by rw [hstrip]⟩

end TwoWaySql
