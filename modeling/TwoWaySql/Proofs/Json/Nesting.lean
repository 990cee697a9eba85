import Mathlib.Data.Option.Basic
import TwoWaySql.Proofs.Json.Lexical

/-!
# The parts of a document

What occurs in a document at any depth, and how deep its lists and objects stand inside one
another. A document that is read from a text stands within the depth that the reader admits.

## Main definitions

* `Json.Occurs` — a part of a document.
* `Json.nesting` — how many lists and objects stand inside one another.
-/
namespace TwoWaySql.Json

/-- Whether a document occurs in another one, at any depth. -/
inductive Occurs (part : Json) : Json → Prop
  | self : Occurs part part
  | item {item : Json} {items : List Json} (h : Occurs part item) (hitem : item ∈ items) :
    Occurs part (array items)
  | member {name : Text} {value : Json} {members : List (Text × Json)} (h : Occurs part value)
    (hmember : (name, value) ∈ members) : Occurs part (object members)

mutual

/-- How many lists and objects stand inside one another. -/
def nesting : Json → Nat
  | array items => nestingItems items + 1
  | object members => nestingMembers members + 1
  | _ => 0

/-- The deepest nesting of the items. -/
def nestingItems : List Json → Nat
  | [] => 0
  | item :: items => max (nesting item) (nestingItems items)

/-- The deepest nesting of the members. -/
def nestingMembers : List (Text × Json) → Nat
  | [] => 0
  | (_, value) :: members => max (nesting value) (nestingMembers members)

end

/-! ## What the reader admits -/

variable {t rest : Text} {json : Json} {depth fuel : Nat}

theorem eq_number_of_fraction? {negative : Bool} {whole fraction : Text} {power : Int}
    (h : fraction? negative whole fraction power = some json) : ∃ x, json = float x := by
  simp only [fraction?, Option.bind_eq_bind, Option.bind_eq_some_iff, Option.some.injEq] at h
  obtain ⟨_, _, rfl⟩ := h
  exact ⟨_, rfl⟩

theorem eq_number_of_integer? {negative : Bool} {whole : Text}
    (h : integer? negative whole = some json) : (∃ i, json = int i) ∨ ∃ x, json = float x := by
  rw [integer?] at h
  split_ifs at h
  · exact .inr (eq_number_of_fraction? h)
  · cases h
    exact .inl ⟨_, rfl⟩
  · cases h
    exact .inl ⟨_, rfl⟩
  · exact .inr (eq_number_of_fraction? h)

/-- A number is read as an integer or as a floating point number. -/
theorem eq_number_of_readNumber (h : readNumber t = some (some json, rest)) :
    (∃ i, json = int i) ∨ ∃ x, json = float x := by
  have hunsigned : ∀ negative u, readUnsigned negative u = some (some json, rest) →
      (∃ i, json = int i) ∨ ∃ x, json = float x := by
    intro negative u hu
    simp only [readUnsigned, Option.bind_eq_bind, Option.bind_eq_some_iff] at hu
    obtain ⟨-, -, hu⟩ := hu
    split at hu
    · simp only [Option.bind_eq_some_iff, Option.some.injEq, Prod.mk.injEq] at hu
      obtain ⟨-, -, _, -, hjson, -⟩ := hu
      exact .inr (eq_number_of_fraction? hjson)
    · split at hu
      · simp only [Option.bind_eq_some_iff, Option.some.injEq, Prod.mk.injEq] at hu
        obtain ⟨_, -, hjson, -⟩ := hu
        exact .inr (eq_number_of_fraction? hjson)
      · simp only [Option.some.injEq, Prod.mk.injEq] at hu
        exact eq_number_of_integer? hu.1
    · simp only [Option.some.injEq, Prod.mk.injEq] at hu
      exact eq_number_of_integer? hu.1
  cases t with
  | nil => cases h
  | cons c t =>
      rw [readNumber_cons] at h
      split_ifs at h
      · exact hunsigned _ _ h
      · exact hunsigned _ _ h

/-- What the reader can find at the start of a text: a word or a string, a number, or a list or an
object inside one level more. -/
theorem readValue_cases (h : readValue .refuse depth (fuel + 1) t = some (json, rest)) :
    (json = null ∨ (∃ b, json = bool b) ∨ ∃ s, json = string s) ∨
    readNumber (skipBlanks t) = some (some json, rest) ∨
    (depth < 127 ∧ ∃ items, json = array items ∧
      (items = [] ∨ ∃ u, readItems .refuse (depth + 1) fuel u = some (items, rest))) ∨
    (depth < 127 ∧ ∃ members, json = object members ∧
      (members = [] ∨ ∃ u, readMembers .refuse (depth + 1) fuel u = some (members, rest))) := by
  have hword : ∀ {word u : Text} {value : Json},
      readWord word value u = some (json, rest) → json = value := by
    intro word u value hword
    rw [readWord] at hword
    split_ifs at hword
    cases hword
    rfl
  rw [readValue] at h
  split at h
  · cases h
  · next u _ =>
    simp only [Option.bind_eq_bind, Option.bind_eq_some_iff] at h
    obtain ⟨⟨s, after⟩, -, j, hj, h⟩ := h
    obtain ⟨s, -, rfl⟩ := Option.map_eq_some_iff.1 hj
    cases h
    exact .inl (.inr (.inr ⟨s, rfl⟩))
  · next u _ =>
    simp only [Option.bind_eq_bind, Option.bind_eq_some_iff, Option.guard_eq_some'] at h
    obtain ⟨_, hopens, h⟩ := h
    refine .inr (.inr (.inl ⟨by simpa [Tolerance.opens] using hopens, ?_⟩))
    split at h
    · cases h
      exact ⟨[], rfl, .inl rfl⟩
    · obtain ⟨⟨items, after⟩, hitems, h⟩ := Option.map_eq_some_iff.1 h
      cases h
      exact ⟨items, rfl, .inr ⟨u, hitems⟩⟩
  · next u _ =>
    simp only [Option.bind_eq_bind, Option.bind_eq_some_iff, Option.guard_eq_some'] at h
    obtain ⟨_, hopens, h⟩ := h
    refine .inr (.inr (.inr ⟨by simpa [Tolerance.opens] using hopens, ?_⟩))
    split at h
    · cases h
      exact ⟨[], rfl, .inl rfl⟩
    · obtain ⟨⟨members, after⟩, hmembers, h⟩ := Option.map_eq_some_iff.1 h
      cases h
      exact ⟨members, rfl, .inr ⟨u, hmembers⟩⟩
  · exact .inl (.inl (hword h))
  · exact .inl (.inr (.inl ⟨true, hword h⟩))
  · exact .inl (.inr (.inl ⟨false, hword h⟩))
  · simp only [Option.bind_eq_bind, Option.bind_eq_some_iff] at h
    obtain ⟨⟨n, after⟩, hnumber, j, hj, h⟩ := h
    have hn : n = some j := hj
    subst hn
    cases h
    exact .inr (.inl hnumber)

/-- What the reader can find as the members of an object. -/
theorem readMembers_cases {members : List (Text × Json)}
    (h : readMembers .refuse depth (fuel + 1) t = some (members, rest)) :
    ∃ name value others u after, members = (name, value) :: others ∧
      readValue .refuse depth fuel u = some (value, after) ∧
      (others = [] ∨ ∃ u', readMembers .refuse depth fuel u' = some (others, rest)) := by
  have hcons : ∀ {name : Option Text} {value : Json} {others : List (Text × Json)},
      consMember? .refuse name value others = some members →
        ∃ n, members = (n, value) :: others := by
    intro name value others hcons
    cases name with
    | none => cases hcons
    | some n =>
        cases hcons
        exact ⟨n, rfl⟩
  rw [readMembers] at h
  split at h
  · simp only [Option.bind_eq_bind, Option.bind_eq_some_iff] at h
    obtain ⟨⟨name, after⟩, -, h⟩ := h
    simp only at h
    split at h
    · next u _ =>
      simp only [Option.bind_eq_some_iff] at h
      obtain ⟨⟨value, after'⟩, hvalue, h⟩ := h
      simp only at h
      split at h
      · next u' _ =>
        simp only [Option.bind_eq_some_iff] at h
        obtain ⟨⟨others, _⟩, hothers, _, hmembers, h⟩ := h
        cases h
        obtain ⟨n, rfl⟩ := hcons hmembers
        exact ⟨n, value, others, u, after', rfl, hvalue, .inr ⟨u', hothers⟩⟩
      · simp only [Option.bind_eq_some_iff] at h
        obtain ⟨_, hmembers, h⟩ := h
        cases h
        obtain ⟨n, rfl⟩ := hcons hmembers
        exact ⟨n, value, [], u, after', rfl, hvalue, .inl rfl⟩
      · cases h
    · cases h
  · cases h

theorem add_max_le {n m bound : Nat} (hn : depth + n ≤ bound) (hm : depth + m ≤ bound) :
    depth + max n m ≤ bound := by
  omega

/-- A document is read within the depth that the reader admits. -/
theorem nesting_le_of_read (fuel : Nat) :
    (∀ depth t json rest, depth ≤ 127 → readValue .refuse depth fuel t = some (json, rest) →
      depth + json.nesting ≤ 127) ∧
    (∀ depth t items rest, depth ≤ 127 → readItems .refuse depth fuel t = some (items, rest) →
      depth + nestingItems items ≤ 127) ∧
    (∀ depth t members rest, depth ≤ 127 →
      readMembers .refuse depth fuel t = some (members, rest) →
        depth + nestingMembers members ≤ 127) := by
  induction fuel with
  | zero =>
      refine ⟨?_, ?_, ?_⟩ <;> intro depth t _ rest _ h <;> cases h
  | succ fuel ih =>
      obtain ⟨hvalue, hitems, hmembers⟩ := ih
      refine ⟨?_, ?_, ?_⟩
      · intro depth t json rest hdepth h
        rcases readValue_cases h with (rfl | ⟨b, rfl⟩ | ⟨s, rfl⟩) | hnumber |
          ⟨hopens, items, rfl, rfl | ⟨u, hread⟩⟩ | ⟨hopens, members, rfl, rfl | ⟨u, hread⟩⟩
        · exact hdepth
        · exact hdepth
        · exact hdepth
        · rcases eq_number_of_readNumber hnumber with ⟨i, rfl⟩ | ⟨x, rfl⟩
          · exact hdepth
          · exact hdepth
        · exact hopens
        · have hitems := hitems _ _ _ _ hopens hread
          rw [nesting]
          omega
        · exact hopens
        · have hmembers := hmembers _ _ _ _ hopens hread
          rw [nesting]
          omega
      · intro depth t items rest hdepth h
        rw [readItems] at h
        simp only [Option.bind_eq_bind, Option.bind_eq_some_iff] at h
        obtain ⟨⟨item, after⟩, hitem, h⟩ := h
        have hfirst := hvalue _ _ _ _ hdepth hitem
        simp only at h
        split at h
        · simp only [Option.bind_eq_some_iff] at h
          obtain ⟨⟨items', after'⟩, hrest, h⟩ := h
          cases h
          have hmore : depth + nestingItems items' ≤ 127 := hitems _ _ _ _ hdepth hrest
          exact add_max_le hfirst hmore
        · cases h
          exact add_max_le hfirst hdepth
        · cases h
      · intro depth t members rest hdepth h
        obtain ⟨name, value, others, u, after, rfl, hread, hothers⟩ := readMembers_cases h
        have hfirst := hvalue _ _ _ _ hdepth hread
        rcases hothers with rfl | ⟨u', hread'⟩
        · exact add_max_le hfirst hdepth
        · exact add_max_le hfirst (hmembers _ _ _ _ hdepth hread')

theorem read?_eq_some_iff : read? t = some json ↔
    ∃ after, readValue .refuse 0 (2 * t.length + 2) t = some (json, after) ∧
      skipBlanks after = [] := by
  simp only [read?, readWith?, Option.bind_eq_bind, Option.bind_eq_some_iff, Prod.exists,
    Option.guard_eq_some', Option.some.injEq, List.isEmpty_iff]
  constructor
  · rintro ⟨json', after, hread, _, hafter, rfl⟩
    exact ⟨after, hread, hafter⟩
  · rintro ⟨after, hread, hafter⟩
    exact ⟨json, after, hread, (), hafter, rfl⟩

theorem nesting_le_of_read? (h : read? t = some json) : json.nesting ≤ 127 := by
  obtain ⟨after, hread, -⟩ := read?_eq_some_iff.1 h
  have hle := (nesting_le_of_read _).1 0 t json after (Nat.zero_le _) hread
  omega

end TwoWaySql.Json
