import TwoWaySql.Proofs.Dummy.Reading

/-!
# Literals of SQL and dummy literals

A string of SQL may hold quotes, each written twice, and a list may hold strings and further lists.
The shapes of dummy literals know nothing of that: they end with the first closing mark. A string is
removed whole nevertheless, or stays, for behind a first quote that does not close it stands another
quote. A list is removed in part if its first closing parenthesis is not its own and has a blank
behind it, and only then.

## Main definitions

* `SqlLiteral` — strings, and lists with balanced parentheses.
* `BreaksOff` — the lists of which a part is removed.
-/
namespace TwoWaySql

/-- The texts that stand between the quotes of a string: every quote in them is written twice. -/
inductive IsStringInside : Text → Prop
  | nil : IsStringInside []
  | char {c : Char} {t : Text} (hc : c ≠ '\'') (h : IsStringInside t) : IsStringInside (c :: t)
  | quote {t : Text} (h : IsStringInside t) : IsStringInside ('\'' :: '\'' :: t)

/-- The texts whose parentheses are balanced, those in strings not counted. -/
inductive IsBalanced : Text → Prop
  | nil : IsBalanced []
  | char {c : Char} {t : Text} (hc : c ∉ ['(', ')', '\'']) (h : IsBalanced t) : IsBalanced (c :: t)
  | string {inside t : Text} (hs : IsStringInside inside) (h : IsBalanced t) :
      IsBalanced ('\'' :: (inside ++ '\'' :: t))
  | nested {inside t : Text} (hi : IsBalanced inside) (h : IsBalanced t) :
      IsBalanced ('(' :: (inside ++ ')' :: t))

/-- The strings and lists of SQL, complete up to the mark that closes them. -/
inductive SqlLiteral : Text → Prop
  | string {inside : Text} (h : IsStringInside inside) : SqlLiteral ('\'' :: (inside ++ ['\'']))
  | list {inside : Text} (h : IsBalanced inside) : SqlLiteral ('(' :: (inside ++ [')']))

/-- Whether a text is a list with a blank behind its first closing parenthesis. -/
def BreaksOff (literal : Text) : Prop :=
  ∃ head c rest, literal = '(' :: (head ++ ')' :: c :: rest) ∧ ')' ∉ head ∧ isBlank c = true

/-- Behind the first quote in a string that does not close it stands another one. -/
theorem IsStringInside.exists_first {inside : Text} (h : IsStringInside inside) :
    ∃ head rest, '\'' ∉ head ∧ inside ++ ['\''] = head ++ '\'' :: rest ∧
      ∀ c ∈ rest.head?, c = '\'' := by
  induction h with
  | nil => exact ⟨[], [], by simp, rfl, by simp⟩
  | @char c t hc _ ih =>
      obtain ⟨head, rest, hhead, heq, hrest⟩ := ih
      refine ⟨c :: head, rest, ?_, by simp [heq], hrest⟩
      simp [hhead, Ne.symm hc]
  | @quote t _ _ => exact ⟨[], '\'' :: (t ++ ['\'']), by simp, rfl, by simp⟩

/-- A literal of SQL starts with one of a shape that ends with a closing mark. In a string, nothing
but a quote can stand behind that mark. -/
theorem SqlLiteral.exists_matches {literal : Text} (h : SqlLiteral literal) :
    ∃ (shape : Shape) (word rest : Text), shape ≠ .number ∧ shape.Matches word ∧
      literal = word ++ rest ∧ (shape = .list ∨ ∀ c ∈ rest.head?, c = '\'') := by
  cases h with
  | @string inside h =>
      obtain ⟨head, rest, hhead, heq, hrest⟩ := h.exists_first
      exact ⟨.quotedString, '\'' :: (head ++ ['\'']), rest, by simp, .quotedString hhead,
        by simp [heq], .inr hrest⟩
  | @list inside h =>
      have hclose : ')' ∈ inside ++ [')'] := by simp
      obtain ⟨head, rest, heq, hhead⟩ := List.eq_append_cons_of_mem hclose
      exact ⟨.list, '(' :: (head ++ [')']), rest, by simp, .list hhead, by simp [heq], .inl rfl⟩

namespace Literal

variable {t word rest : Text} {shape : Shape} {l : Literal}

/-- The dummy literal of a text can only be what one shape reads of it. -/
theorem dummy?_eq_some_iff_of_read? (h : shape.read? t = some (word, rest)) :
    dummy? t = some l ↔ l = ⟨shape, word, rest⟩ ∧ Shape.atBoundary rest = true := by
  rw [dummy?_eq_some_iff]
  constructor
  · rintro ⟨hread, hboundary⟩
    obtain ⟨shape', word', rest'⟩ := l
    obtain rfl := Shape.eq_of_read? hread h
    rw [h] at hread
    cases hread
    exact ⟨rfl, hboundary⟩
  · rintro ⟨rfl, hboundary⟩
    exact ⟨h, hboundary⟩

/-- **A literal of SQL is removed whole, or not at all, or it breaks off.** What is removed of a
text that starts with such a literal is never more than the literal. It is the whole literal exactly
if that is a literal of a shape, without another closing mark inside, and a boundary follows; and it
is only a part exactly if the literal is a list whose first closing parenthesis is not the last one
and has a blank behind it, whatever follows the list. -/
theorem dummy?_sqlLiteral_append {literal : Text} (h : SqlLiteral literal) (tail : Text) :
    (∀ l, dummy? (literal ++ tail) = some l → l.text <+: literal) ∧
    ((∃ l, dummy? (literal ++ tail) = some l ∧ l.text = literal) ↔
      (∃ shape : Shape, shape.Matches literal) ∧ Shape.atBoundary tail = true) ∧
    ((∃ l, dummy? (literal ++ tail) = some l ∧ l.text ≠ literal) ↔ BreaksOff literal) := by
  obtain ⟨shape, word, rest, hshape, hword, rfl, hrest⟩ := h.exists_matches
  have hread := hword.read?_append_of_ne_number hshape (rest ++ tail)
  rw [← List.append_assoc] at hread
  have hiff := fun l => dummy?_eq_some_iff_of_read? (l := l) hread
  have hwhole : word = word ++ rest ↔ rest = [] := by simp
  refine ⟨?_, ?_, ?_⟩
  · intro l hl
    rw [((hiff l).1 hl).1]
    exact List.prefix_append word rest
  · constructor
    · rintro ⟨l, hl, htext⟩
      obtain ⟨rfl, hboundary⟩ := (hiff l).1 hl
      obtain rfl := hwhole.1 htext
      exact ⟨⟨shape, by simpa using hword⟩, hboundary⟩
    · rintro ⟨⟨shape', hmatches⟩, hboundary⟩
      exact ⟨_, dummy?_append hmatches hboundary, rfl⟩
  · constructor
    · rintro ⟨l, hl, htext⟩
      obtain ⟨rfl, hboundary⟩ := (hiff l).1 hl
      cases rest with
      | nil => exact absurd (hwhole.2 rfl) htext
      | cons c rest =>
          have hblank : isBlank c = true := hboundary
          rcases hrest with rfl | hquote
          · cases hword with
            | @list head hhead => exact ⟨head, c, rest, by simp, hhead, hblank⟩
          · rw [hquote c rfl] at hblank
            exact absurd hblank (by decide)
    · rintro ⟨head, c, rest', hliteral, hhead, hblank⟩
      have htext : word ++ rest ++ tail = '(' :: (head ++ [')']) ++ (c :: rest' ++ tail) := by
        rw [hliteral]
        simp
      have hboundary : Shape.atBoundary (c :: rest' ++ tail) = true := hblank
      refine ⟨_, htext ▸ dummy?_append (.list hhead) hboundary, ?_⟩
      rw [hliteral]
      simp

/-- A list with a quote in it. -/
private def quotedList : Text := "('it''s', 2)"

theorem dummy?_sqlLiteral_append_quoted : SqlLiteral quotedList ∧
    (∃ l, dummy? (quotedList ++ " AND b".toList) = some l ∧ l.text = quotedList) ∧
    ¬ BreaksOff quotedList := by
  have hinside : IsStringInside ['i', 't', '\'', '\'', 's'] :=
    .char (by decide) (.char (by decide) (.quote (.char (by decide) .nil)))
  have hrest : IsBalanced [',', ' ', '2'] :=
    .char (by decide) (.char (by decide) (.char (by decide) .nil))
  have hliteral : SqlLiteral quotedList := .list (.string hinside hrest)
  have hshape : Shape.list.Matches quotedList :=
    @Shape.Matches.list ['\'', 'i', 't', '\'', '\'', 's', '\'', ',', ' ', '2'] (by decide)
  obtain ⟨-, hwhole, hpart⟩ := dummy?_sqlLiteral_append hliteral " AND b".toList
  have hremoved := hwhole.2 ⟨⟨.list, hshape⟩, by decide⟩
  refine ⟨hliteral, hremoved, ?_⟩
  rw [← hpart]
  rintro ⟨l, hl, htext⟩
  obtain ⟨l', hl', htext'⟩ := hremoved
  rw [hl] at hl'
  cases hl'
  exact htext htext'

/-- A list in a list, in front of a blank. -/
private def nestedList : Text := "((1) + 2)"

/-- Of a list in a list, a part is removed. -/
theorem dummy?_cuts_nested_list : SqlLiteral nestedList ∧
    dummy? nestedList = some ⟨.list, "((1)", " + 2)"⟩ := by
  have hone : IsBalanced ['1'] := .char (by decide) .nil
  have hrest : IsBalanced [' ', '+', ' ', '2'] :=
    .char (by decide) (.char (by decide) (.char (by decide) (.char (by decide) .nil)))
  exact ⟨.list (.nested hone hrest), by decide⟩

end Literal

end TwoWaySql
