import Mathlib.Data.List.TakeDrop
import TwoWaySql.Dummy.Shape
import TwoWaySql.Proofs.Text.Blank

/-!
# The literals of a shape

Which texts are literals of a shape is said here without reading anything: a list runs from its
parenthesis to the first closing one, a number is a sign, digits and a fraction. Reading finds
such a literal whole where a boundary follows it. The first character decides which shape that is,
and it is never blank, so what stands at a boundary is no literal at all.

## Main definitions

* `Shape.Matches` — the literals of a shape.
* `Shape.opensWith` — the characters that literals of a shape start with.
* `Literal.startingIn?`, `Literal.dummyIn?` — the literal that is found when the shapes are tried in
  an order.
-/
namespace TwoWaySql

namespace Shape

/-! ## Literals -/

/-- Whether a text is a row of digits, at least one. -/
def IsDigits (t : Text) : Prop := t ≠ [] ∧ ∀ c ∈ t, isDigit c = true

instance (t : Text) : Decidable (IsDigits t) :=
  decidable_of_iff (t ≠ [] ∧ t.all isDigit = true) (by simp [IsDigits])

/-- The literals of a shape. -/
inductive Matches : Shape → Text → Prop
  | list {inside : Text} (h : ')' ∉ inside) : Matches list ('(' :: (inside ++ [')']))
  | quotedString {inside : Text} (h : '\'' ∉ inside) :
      Matches quotedString ('\'' :: (inside ++ ['\'']))
  | number {sign digits fraction : Text} (hs : sign = [] ∨ sign = ['-']) (hd : IsDigits digits)
      (hf : fraction = [] ∨ ∃ places, IsDigits places ∧ fraction = '.' :: places) :
      Matches number (sign ++ (digits ++ fraction))
  | placeholder : Matches placeholder ['?']

/-- Whether a literal of the shape may start with a character. -/
def opensWith : Shape → Char → Bool
  | list, c => c = '('
  | quotedString, c => c = '\''
  | number, c => c = '-' || isDigit c
  | placeholder, c => c = '?'

/-- Two shapes do not start alike. -/
theorem eq_of_opensWith {s s' : Shape} {c : Char} (h : s.opensWith c = true)
    (h' : s'.opensWith c = true) : s = s' := by
  have hdigits : isDigit '(' = false ∧ isDigit '\'' = false ∧ isDigit '?' = false := by decide
  cases s <;> cases s' <;> simp only [opensWith, Bool.or_eq_true, decide_eq_true_eq] at h h' <;>
    grind

theorem opensWith_of_isBlank {c : Char} (h : isBlank c = true) (s : Shape) :
    s.opensWith c = false := by
  have hdigit := isDigit_of_isBlank h
  have hmarks : isBlank '(' = false ∧ isBlank '\'' = false ∧ isBlank '-' = false ∧
      isBlank '?' = false := by decide
  cases s <;> simp only [opensWith, Bool.or_eq_false_iff, decide_eq_false_iff_not] <;> grind

/-! ## Reading a literal -/

theorem spanTo_append {last : Char} {inside : Text} (h : last ∉ inside) (rest : Text) :
    spanTo last (inside ++ last :: rest) = some (inside ++ [last], rest) := by
  induction inside with
  | nil => simp [spanTo]
  | cons c inside ih =>
      have hc : c ≠ last := fun he => h (by simp [he])
      have hinside : last ∉ inside := fun hm => h (by simp [hm])
      simp [spanTo, hc, ih hinside]

/-- Whether a text does not go on with a digit. -/
def stopsDigits (t : Text) : Bool := t.head?.all fun c => !isDigit c

theorem spanDigits_append {digits rest : Text} (h : ∀ c ∈ digits, isDigit c = true)
    (hr : stopsDigits rest = true) : spanDigits (digits ++ rest) = (digits, rest) := by
  have hrest : rest.takeWhile isDigit = [] ∧ rest.dropWhile isDigit = rest := by
    cases rest with
    | nil => exact ⟨rfl, rfl⟩
    | cons c rest =>
        have hc : isDigit c = false := by simpa [stopsDigits] using hr
        simp [hc]
  rw [spanDigits, List.span_eq_takeWhile_dropWhile, List.takeWhile_append_of_pos h,
    List.dropWhile_append_of_pos h, hrest.1, hrest.2, List.append_nil]

/-- A text at a boundary goes on with neither a digit nor a fraction. -/
theorem spanFraction_of_atBoundary {t : Text} (h : atBoundary t = true) :
    spanFraction t = ([], t) ∧ stopsDigits t = true := by
  cases t with
  | nil => exact ⟨rfl, rfl⟩
  | cons c rest =>
      have hc : isBlank c = true := h
      have hpoint : c ≠ '.' := by
        rintro rfl
        exact absurd hc (by decide)
      have hdigit := isDigit_of_isBlank hc
      constructor
      · simp [spanFraction, hpoint]
      · simp [stopsDigits, hdigit]

theorem spanNumber_append {digits fraction rest : Text} (hd : IsDigits digits)
    (hf : fraction = [] ∨ ∃ places, IsDigits places ∧ fraction = '.' :: places)
    (hr : atBoundary rest = true) :
    spanNumber (digits ++ fraction ++ rest) = some (digits ++ fraction, rest) := by
  obtain ⟨hrest, hstop⟩ := spanFraction_of_atBoundary hr
  have hfraction : spanFraction (fraction ++ rest) = (fraction, rest) ∧
      stopsDigits (fraction ++ rest) = true := by
    rcases hf with rfl | ⟨places, hplaces, rfl⟩
    · exact ⟨hrest, hstop⟩
    · have hspan := spanDigits_append hplaces.2 hstop
      obtain ⟨c, places, rfl⟩ := List.exists_cons_of_ne_nil hplaces.1
      rw [List.cons_append] at hspan
      constructor
      · simp [spanFraction, hspan]
      · simp [stopsDigits]
        decide
  have hdigits := spanDigits_append hd.2 hfraction.2
  obtain ⟨c, digits, rfl⟩ := List.exists_cons_of_ne_nil hd.1
  rw [spanNumber, List.append_assoc, hdigits]
  simp [hfraction.1]

/-- A literal in front of a boundary is read whole. -/
theorem Matches.read?_append {shape : Shape} {t rest : Text} (h : shape.Matches t)
    (hr : atBoundary rest = true) : shape.read? (t ++ rest) = some (t, rest) := by
  cases h with
  | list h => simp [read?, spanTo_append h]
  | quotedString h => simp [read?, spanTo_append h]
  | placeholder => rfl
  | @number sign digits fraction hs hd hf =>
      have hnumber := spanNumber_append hd hf hr
      rcases hs with rfl | rfl
      · obtain ⟨c, digits, rfl⟩ := List.exists_cons_of_ne_nil hd.1
        have hc : c ≠ '-' := by
          rintro rfl
          exact absurd (hd.2 '-' List.mem_cons_self) (by decide)
        simpa [read?, hc] using hnumber
      · simpa [read?] using hnumber

/-- What is read as a literal of a shape starts as such. -/
theorem exists_opensWith_of_read? {shape : Shape} {t : Text} {r : Text × Text}
    (h : shape.read? t = some r) : ∃ c rest, t = c :: rest ∧ shape.opensWith c = true := by
  unfold read? at h
  split at h
  · exact ⟨_, _, rfl, rfl⟩
  · exact ⟨_, _, rfl, rfl⟩
  · exact ⟨_, _, rfl, rfl⟩
  · cases t with
    | nil => simp [spanNumber, spanDigits] at h
    | cons c rest =>
        refine ⟨c, rest, rfl, ?_⟩
        by_cases hc : isDigit c = true
        · simp [opensWith, hc]
        · simp [spanNumber, spanDigits, List.span_eq_takeWhile_dropWhile, hc] at h
  · exact ⟨_, _, rfl, rfl⟩
  · cases h

/-- A text is read as a literal of one shape at most. -/
theorem eq_of_read? {s s' : Shape} {t : Text} {r r' : Text × Text} (h : s.read? t = some r)
    (h' : s'.read? t = some r') : s = s' := by
  obtain ⟨c, rest, rfl, hc⟩ := exists_opensWith_of_read? h
  obtain ⟨c', rest', heq, hc'⟩ := exists_opensWith_of_read? h'
  cases heq
  exact eq_of_opensWith hc hc'

theorem mem_all (shape : Shape) : shape ∈ all := by
  cases shape <;> decide

end Shape

/-- What one search at most can find is found in whatever order the searches are made. -/
theorem findSome?_eq_some_iff_of_unique {α β : Type} {f : α → Option β} {order : List α} {b : β}
    (h : ∀ a a' b b', f a = some b → f a' = some b' → a = a') :
    order.findSome? f = some b ↔ ∃ a ∈ order, f a = some b := by
  constructor
  · exact List.exists_of_findSome?_eq_some
  · rintro ⟨a, ha, hfa⟩
    cases hfound : order.findSome? f with
    | none =>
        have hnone := List.findSome?_eq_none_iff.1 hfound a ha
        rw [hfa] at hnone
        cases hnone
    | some b' =>
        obtain ⟨a', -, hfa'⟩ := List.exists_of_findSome?_eq_some hfound
        rw [← hfa, ← hfa', h a a' b b' hfa hfa']

namespace Literal

variable {t : Text} {l : Literal} {order : List Shape}

/-- The literal at the start of a text, the shapes being tried in an order. -/
def startingIn? (order : List Shape) (t : Text) : Option Literal := order.findSome? (ofShape? t)

/-- The dummy literal of a text, the shapes being tried in an order. -/
def dummyIn? (order : List Shape) (t : Text) : Option Literal :=
  order.findSome? fun shape =>
    (ofShape? t shape).filter fun literal => Shape.atBoundary literal.rest

theorem ofShape?_eq_some_iff {s : Shape} :
    ofShape? t s = some l ↔ s = l.shape ∧ l.shape.read? t = some (l.text, l.rest) := by
  rw [ofShape?, Option.map_eq_some_iff]
  constructor
  · rintro ⟨⟨literal, rest⟩, hread, rfl⟩
    exact ⟨rfl, hread⟩
  · rintro ⟨rfl, hread⟩
    exact ⟨(l.text, l.rest), hread, rfl⟩

theorem filter_ofShape?_eq_some_iff {s : Shape} :
    (ofShape? t s).filter (fun l => Shape.atBoundary l.rest) = some l ↔
      s = l.shape ∧ l.shape.read? t = some (l.text, l.rest) ∧ Shape.atBoundary l.rest = true := by
  rw [Option.filter_eq_some_iff, ofShape?_eq_some_iff, and_assoc]

/-- In whatever order the shapes are tried, the literal of a text is what is read of it. -/
theorem startingIn?_eq_some_iff (h : order.Perm Shape.all) :
    startingIn? order t = some l ↔ l.shape.read? t = some (l.text, l.rest) := by
  rw [startingIn?, findSome?_eq_some_iff_of_unique]
  · constructor
    · rintro ⟨s, -, hs⟩
      exact (ofShape?_eq_some_iff.1 hs).2
    · intro hread
      exact ⟨l.shape, h.mem_iff.2 l.shape.mem_all, ofShape?_eq_some_iff.2 ⟨rfl, hread⟩⟩
  · intro s s' l l' hs hs'
    obtain ⟨rfl, hread⟩ := ofShape?_eq_some_iff.1 hs
    obtain ⟨rfl, hread'⟩ := ofShape?_eq_some_iff.1 hs'
    exact Shape.eq_of_read? hread hread'

/-- In whatever order the shapes are tried, the dummy literal of a text is what is read of it up to
a boundary. -/
theorem dummyIn?_eq_some_iff (h : order.Perm Shape.all) : dummyIn? order t = some l ↔
    l.shape.read? t = some (l.text, l.rest) ∧ Shape.atBoundary l.rest = true := by
  rw [dummyIn?, findSome?_eq_some_iff_of_unique]
  · constructor
    · rintro ⟨s, -, hs⟩
      exact (filter_ofShape?_eq_some_iff.1 hs).2
    · intro hread
      exact ⟨l.shape, h.mem_iff.2 l.shape.mem_all, filter_ofShape?_eq_some_iff.2 ⟨rfl, hread⟩⟩
  · intro s s' l l' hs hs'
    obtain ⟨rfl, hread, -⟩ := filter_ofShape?_eq_some_iff.1 hs
    obtain ⟨rfl, hread', -⟩ := filter_ofShape?_eq_some_iff.1 hs'
    exact Shape.eq_of_read? hread hread'

theorem starting?_eq_some_iff :
    starting? t = some l ↔ l.shape.read? t = some (l.text, l.rest) :=
  startingIn?_eq_some_iff (List.Perm.refl Shape.all)

/-- The dummy literal of a text is what is read of it, as whatever shape, up to a boundary. -/
theorem dummy?_eq_some_iff : dummy? t = some l ↔
    l.shape.read? t = some (l.text, l.rest) ∧ Shape.atBoundary l.rest = true :=
  dummyIn?_eq_some_iff (List.Perm.refl Shape.all)

/-- A literal of a shape in front of a boundary is the dummy literal there. -/
theorem dummy?_append {shape : Shape} {rest : Text} (h : shape.Matches t)
    (hr : Shape.atBoundary rest = true) : dummy? (t ++ rest) = some ⟨shape, t, rest⟩ :=
  dummy?_eq_some_iff.2 ⟨h.read?_append hr, hr⟩

/-- A text at a boundary starts with no literal. -/
theorem starting?_of_atBoundary (h : Shape.atBoundary t = true) : starting? t = none := by
  cases hstarting : starting? t with
  | none => rfl
  | some l =>
      obtain ⟨c, rest, rfl, hc⟩ :=
        Shape.exists_opensWith_of_read? (starting?_eq_some_iff.1 hstarting)
      rw [Shape.opensWith_of_isBlank h] at hc
      cases hc

/-- A dummy literal is the literal that the text starts with. -/
theorem starting?_of_dummy? (h : dummy? t = some l) : starting? t = some l :=
  starting?_eq_some_iff.2 (dummy?_eq_some_iff.1 h).1

theorem dummy?_of_atBoundary (h : Shape.atBoundary t = true) : dummy? t = none := by
  cases hdummy : dummy? t with
  | none => rfl
  | some l =>
      have hstarting := starting?_of_dummy? hdummy
      rw [starting?_of_atBoundary h] at hstarting
      cases hstarting

end Literal

end TwoWaySql
