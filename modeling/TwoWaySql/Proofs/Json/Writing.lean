import TwoWaySql.Proofs.Json.Nesting

/-!
# Written documents are read back

A document on one line is read back, whatever its strings hold and however deep its lists and
objects stand inside one another, as long as the reader admits that depth. What is asked of its
numbers is that integers fit in a 64-bit word, signed or not, and that each other number is read
back by itself.

## Main definitions

* `Json.ReadsBack` — documents whose numbers are read back.
-/
namespace TwoWaySql.Json

/-- A document whose numbers are read back. -/
structure ReadsBack (json : Json) : Prop where
  /-- A 64-bit word holds each integer, signed or not. -/
  integers : ∀ i, Occurs (int i) json → -2 ^ 63 ≤ i ∧ i < 2 ^ 64
  /-- Each other number is read back from its text. -/
  floats : ∀ x, Occurs (float x) json → read? (compact (float x)) = some (float x)

variable {t u after rest : Text} {json value first : Json} {items : List Json}
  {members : List (Text × Json)} {name : Text} {depth fuel : Nat}

theorem ReadsBack.item (h : (array items).ReadsBack) (hitem : first ∈ items) : first.ReadsBack :=
  ⟨fun i hi => h.integers i (.item hi hitem), fun x hx => h.floats x (.item hx hitem)⟩

theorem ReadsBack.member (h : (object members).ReadsBack) (hmember : (name, value) ∈ members) :
    value.ReadsBack :=
  ⟨fun i hi => h.integers i (.member hi hmember), fun x hx => h.floats x (.member hx hmember)⟩

/-! ## Blanks -/

theorem skipBlanks_append (t rest : Text) :
    skipBlanks (t ++ rest) =
      if skipBlanks t = [] then skipBlanks rest else skipBlanks t ++ rest := by
  rw [skipBlanks, List.dropWhile_append]
  simp only [List.isEmpty_iff]
  rfl

theorem skipBlanks_quote (name t : Text) :
    skipBlanks (quote name ++ t) = '"' :: (name.flatMap escape ++ '"' :: t) := by
  simp [quote, skipBlanks]

/-! ## Numbers and strings -/

/-- A number begins with its sign or a digit. -/
theorem head_of_readNumber {n : Option Json} (h : readNumber t = some (n, after)) :
    ∃ c u, t = c :: u ∧ (c = '-' ∨ c.isDigit = true) := by
  cases t with
  | nil => cases h
  | cons c u =>
      refine ⟨c, u, rfl, ?_⟩
      by_contra hc
      rw [not_or] at hc
      rw [readNumber_cons, if_neg hc.1] at h
      have hdigits : (spanDigits (c :: u)).1 = [] := by
        rw [spanDigits, List.span_eq_takeWhile_dropWhile, List.takeWhile_cons_of_neg]
        rw [Text.isAsciiDigit_eq_isDigit]
        exact hc.2
      rw [readUnsigned, hdigits] at h
      cases h

/-- A number at the start of a text is a document. -/
theorem readValue_of_readNumber (h : readNumber (skipBlanks t) = some (some json, after)) :
    readValue .refuse depth (fuel + 1) t = some (json, after) := by
  obtain ⟨c, u, ht, hc⟩ := head_of_readNumber h
  rw [readValue]
  have hmark : ∀ d ∈ ['"', '[', '{', 'n', 't', 'f'], ∀ v, skipBlanks t ≠ d :: v := by
    intro d hd v hv
    obtain ⟨rfl, -⟩ := List.cons.inj (ht.symm.trans hv)
    rcases hc with rfl | hc
    · exact absurd hd (by decide)
    · exact absurd (List.all_eq_true.1 (by decide : ['"', '[', '{', 'n', 't', 'f'].all
        fun d => !d.isDigit) c hd) (by simp [hc])
  split
  · next hnil => simp [ht] at hnil
  · next v hv => exact absurd hv (hmark _ (by simp) v)
  · next v hv => exact absurd hv (hmark _ (by simp) v)
  · next v hv => exact absurd hv (hmark _ (by simp) v)
  · next v hv => exact absurd hv (hmark _ (by simp) v)
  · next v hv => exact absurd hv (hmark _ (by simp) v)
  · next v hv => exact absurd hv (hmark _ (by simp) v)
  · rw [h]
    rfl

/-- A number that is read back by itself is read back whatever follows it. -/
theorem readValue_float {x : Binary64} (h : read? t = some (float x)) (hrest : EndsNumber rest) :
    ∃ after, readValue .refuse depth (fuel + 1) (t ++ rest) = some (float x, after) ∧
      skipBlanks after = skipBlanks rest := by
  obtain ⟨after, hread, hafter⟩ := read?_eq_some_iff.1 h
  rcases readValue_cases hread with (h | ⟨_, h⟩ | ⟨_, h⟩) | hnumber |
    ⟨-, _, h, -⟩ | ⟨-, _, h, -⟩
  · cases h
  · cases h
  · cases h
  · refine ⟨after ++ rest, readValue_of_readNumber ?_, ?_⟩
    · obtain ⟨c, u, ht, -⟩ := head_of_readNumber hnumber
      rw [skipBlanks_append, if_neg (by simp [ht])]
      exact readNumber_append hrest hnumber
    · rw [skipBlanks_append, if_pos hafter]
  · cases h
  · cases h

theorem readValue_int {i : Int} (hlow : -2 ^ 63 ≤ i) (hhigh : i < 2 ^ 64)
    (hrest : EndsNumber rest) :
    readValue .refuse depth (fuel + 1) (Text.ofInt i ++ rest) = some (int i, rest) := by
  have hnumber := readNumber_append hrest (readNumber_ofInt hlow hhigh)
  rw [List.nil_append] at hnumber
  refine readValue_of_readNumber ?_
  obtain ⟨c, u, ht, hc⟩ := head_of_readNumber hnumber
  have hblank : skipBlanks (c :: u) = c :: u := by
    rw [skipBlanks, List.dropWhile_cons_of_neg]
    rcases hc with rfl | hc
    · decide
    · simp only [Bool.or_eq_true, decide_eq_true_eq]
      rintro (((rfl | rfl) | rfl) | rfl)
      all_goals exact absurd hc (by decide)
  rwa [ht, hblank, ← ht]

theorem readValue_string (s rest : Text) :
    readValue .refuse depth (fuel + 1) (quote s ++ rest) = some (string s, rest) := by
  rw [readValue, skipBlanks_quote]
  simp [readString_quote, literal?]

/-! ## Lists and objects -/

/-- No document begins with a closing bracket. -/
theorem skipBlanks_ne_of_readValue {tolerance : Tolerance} {r : Json × Text}
    (h : readValue tolerance depth fuel t = some r) : skipBlanks t ≠ ']' :: u := by
  intro hclose
  cases fuel with
  | zero => cases h
  | succ fuel =>
      rw [readValue, hclose] at h
      cases h

theorem opens_refuse (hdepth : depth < 127) : Tolerance.refuse.opens depth = true :=
  decide_eq_true hdepth

theorem readValue_emptyArray (hdepth : depth < 127) (rest : Text) :
    readValue .refuse depth (fuel + 1) ("[]" ++ rest) = some (array [], rest) := by
  have hopen : skipBlanks ("[]" ++ rest) = '[' :: ']' :: rest := rfl
  have hclose : skipBlanks (']' :: rest) = ']' :: rest := rfl
  rw [readValue, hopen]
  simp [opens_refuse hdepth, hclose]

theorem readValue_emptyObject (hdepth : depth < 127) (rest : Text) :
    readValue .refuse depth (fuel + 1) (['{', '}'] ++ rest) = some (object [], rest) := by
  have hopen : skipBlanks (['{', '}'] ++ rest) = '{' :: '}' :: rest := rfl
  have hclose : skipBlanks ('}' :: rest) = '}' :: rest := rfl
  rw [readValue, hopen]
  simp [opens_refuse hdepth, hclose]

theorem readValue_array (hdepth : depth < 127)
    (h : readItems .refuse (depth + 1) fuel t = some (items, rest)) :
    readValue .refuse depth (fuel + 1) ('[' :: t) = some (array items, rest) := by
  have hopen : skipBlanks ('[' :: t) = '[' :: t := rfl
  have hclose : ∀ u, skipBlanks t ≠ ']' :: u := by
    intro u
    cases fuel with
    | zero => cases h
    | succ fuel =>
        rw [readItems, Option.bind_eq_bind, Option.bind_eq_some_iff] at h
        obtain ⟨r, hread, -⟩ := h
        exact skipBlanks_ne_of_readValue hread
  rw [readValue, hopen]
  simp [opens_refuse hdepth, h]

theorem readItems_last (h : readValue .refuse depth fuel t = some (first, after))
    (hafter : skipBlanks after = ']' :: rest) :
    readItems .refuse depth (fuel + 1) t = some ([first], rest) := by
  rw [readItems, h]
  simp [hafter]

theorem readItems_more (h : readValue .refuse depth fuel t = some (first, after))
    (hafter : skipBlanks after = ',' :: u)
    (hitems : readItems .refuse depth fuel u = some (items, rest)) :
    readItems .refuse depth (fuel + 1) t = some (first :: items, rest) := by
  rw [readItems, h]
  simp [hafter, hitems]

theorem readValue_object (hdepth : depth < 127)
    (h : readMembers .refuse (depth + 1) fuel (quote name ++ t) = some (members, rest)) :
    readValue .refuse depth (fuel + 1) ('{' :: (quote name ++ t)) =
      some (object members, rest) := by
  have hopen : skipBlanks ('{' :: (quote name ++ t)) = '{' :: (quote name ++ t) := rfl
  rw [readValue, hopen]
  simp [opens_refuse hdepth, skipBlanks_quote, h]

theorem readMembers_last (h : readValue .refuse depth fuel t = some (value, after))
    (hafter : skipBlanks after = '}' :: rest) :
    readMembers .refuse depth (fuel + 1) (quote name ++ ':' :: t) =
      some ([(name, value)], rest) := by
  have hcolon : skipBlanks (':' :: t) = ':' :: t := rfl
  rw [readMembers, skipBlanks_quote]
  simp [readString_quote, hcolon, h, hafter, consMember?]

theorem readMembers_more (h : readValue .refuse depth fuel t = some (value, after))
    (hafter : skipBlanks after = ',' :: u)
    (hmembers : readMembers .refuse depth fuel u = some (members, rest)) :
    readMembers .refuse depth (fuel + 1) (quote name ++ ':' :: t) =
      some ((name, value) :: members, rest) := by
  have hcolon : skipBlanks (':' :: t) = ':' :: t := rfl
  rw [readMembers, skipBlanks_quote]
  simp [readString_quote, hcolon, h, hafter, hmembers, consMember?]

/-! ## Documents -/

/-- A number ends, and no blank stands, before a comma or a closing mark. -/
theorem endsNumber_cons {c : Char} (hc : c ∈ [',', ']', '}']) (rest : Text) :
    EndsNumber (c :: rest) ∧ skipBlanks (c :: rest) = c :: rest := by
  simp only [List.mem_cons, List.not_mem_nil, or_false] at hc
  constructor
  · rintro d ⟨⟩
    rcases hc with rfl | rfl | rfl <;> decide
  · rcases hc with rfl | rfl | rfl <;> rfl

theorem endsNumber_compactItems (items : List Json) (rest : Text) :
    EndsNumber (compactItems items ++ rest) ∧
      skipBlanks (compactItems items ++ rest) = compactItems items ++ rest := by
  cases items with
  | nil => exact endsNumber_cons (c := ']') (by simp) rest
  | cons item items =>
      exact endsNumber_cons (c := ',') (by simp) (compact item ++ compactItems items ++ rest)

theorem endsNumber_compactMembers (members : List (Text × Json)) (rest : Text) :
    EndsNumber (compactMembers members ++ rest) ∧
      skipBlanks (compactMembers members ++ rest) = compactMembers members ++ rest := by
  rcases members with - | ⟨⟨name, value⟩, members⟩
  · exact endsNumber_cons (c := '}') (by simp) rest
  · rw [compactMembers]
    exact endsNumber_cons (c := ',') (by simp) _

-- By recursion on the document. Each bound on the fuel leaves two reads for a character, which
-- pays for the step from a list to its first item and for the comma between two items.
mutual

/-- A document on one line is read back, whatever follows it. -/
theorem readValue_compact : ∀ (json : Json) (depth fuel : Nat) {rest : Text}, json.ReadsBack →
    depth + json.nesting ≤ 127 → 2 * json.compact.length < fuel → EndsNumber rest →
    ∃ after, readValue .refuse depth fuel (json.compact ++ rest) = some (json, after) ∧
      skipBlanks after = skipBlanks rest
  | json, depth, 0, rest, hback, hdepth, hfuel, hrest => by omega
  | null, depth, fuel + 1, rest, hback, hdepth, hfuel, hrest => ⟨rest, rfl, rfl⟩
  | bool true, depth, fuel + 1, rest, hback, hdepth, hfuel, hrest => ⟨rest, rfl, rfl⟩
  | bool false, depth, fuel + 1, rest, hback, hdepth, hfuel, hrest => ⟨rest, rfl, rfl⟩
  | int i, depth, fuel + 1, rest, hback, hdepth, hfuel, hrest => by
      obtain ⟨hlow, hhigh⟩ := hback.integers i .self
      exact ⟨rest, readValue_int hlow hhigh hrest, rfl⟩
  | float x, depth, fuel + 1, rest, hback, hdepth, hfuel, hrest =>
      readValue_float (hback.floats x .self) hrest
  | string s, depth, fuel + 1, rest, hback, hdepth, hfuel, hrest =>
      ⟨rest, readValue_string s rest, rfl⟩
  | array [], depth, fuel + 1, rest, hback, hdepth, hfuel, hrest =>
      ⟨rest, readValue_emptyArray hdepth rest, rfl⟩
  | array (item :: items), depth, fuel + 1, rest, hback, hdepth, hfuel, hrest => by
      rw [nesting, nestingItems] at hdepth
      rw [compact, List.length_append, List.length_cons] at hfuel
      cases fuel with
      | zero => omega
      | succ fuel =>
          obtain ⟨hend, hskip⟩ := endsNumber_compactItems items rest
          obtain ⟨after, hitem, hafter⟩ := readValue_compact item (depth + 1) fuel
            (hback.item List.mem_cons_self) (by omega) (by omega) hend
          have hitems := readItems_compactItems items
            (fun item h => hback.item (List.mem_cons_of_mem _ h)) (by omega) (by omega) hitem
            (hafter.trans hskip)
          refine ⟨rest, ?_, rfl⟩
          rw [compact, List.append_assoc, List.cons_append]
          exact readValue_array (by omega) hitems
  | object [], depth, fuel + 1, rest, hback, hdepth, hfuel, hrest =>
      ⟨rest, readValue_emptyObject hdepth rest, rfl⟩
  | object ((name, value) :: members), depth, fuel + 1, rest, hback, hdepth, hfuel, hrest => by
      rw [nesting, nestingMembers] at hdepth
      rw [compact] at hfuel
      simp only [List.length_append, List.length_cons] at hfuel
      cases fuel with
      | zero => omega
      | succ fuel =>
          obtain ⟨hend, hskip⟩ := endsNumber_compactMembers members rest
          obtain ⟨after, hvalue, hafter⟩ := readValue_compact value (depth + 1) fuel
            (hback.member List.mem_cons_self) (by omega) (by omega) hend
          have hmembers := readMembers_compactMembers members name
            (fun name value h => hback.member (List.mem_cons_of_mem _ h)) (by omega) (by omega)
            hvalue (hafter.trans hskip)
          refine ⟨rest, ?_, rfl⟩
          rw [compact]
          simp only [List.cons_append, List.append_assoc]
          exact readValue_object (by omega) hmembers

/-- The items after one that is read are read back up to the closing bracket. -/
theorem readItems_compactItems : ∀ (items : List Json) {first : Json} {depth fuel : Nat}
    {t after rest : Text}, (∀ item ∈ items, item.ReadsBack) → depth + nestingItems items ≤ 127 →
    2 * (compactItems items).length ≤ fuel →
    readValue .refuse depth fuel t = some (first, after) →
    skipBlanks after = compactItems items ++ rest →
    readItems .refuse depth (fuel + 1) t = some (first :: items, rest)
  | [], first, depth, fuel, t, after, rest, hback, hdepth, hfuel, hfirst, hafter =>
      readItems_last hfirst hafter
  | item :: items, first, depth, fuel, t, after, rest, hback, hdepth, hfuel, hfirst, hafter => by
      rw [nestingItems] at hdepth
      rw [compactItems, List.length_append, List.length_cons] at hfuel
      rw [compactItems, List.append_assoc, List.cons_append] at hafter
      cases fuel with
      | zero => omega
      | succ fuel =>
          obtain ⟨hend, hskip⟩ := endsNumber_compactItems items rest
          obtain ⟨after', hitem, hafter'⟩ := readValue_compact item depth fuel
            (hback _ List.mem_cons_self) (by omega) (by omega) hend
          exact readItems_more hfirst hafter (readItems_compactItems items
            (fun item h => hback item (List.mem_cons_of_mem _ h)) (by omega) (by omega) hitem
            (hafter'.trans hskip))

/-- The members after one that is read are read back up to the closing brace. -/
theorem readMembers_compactMembers : ∀ (members : List (Text × Json)) (name : Text) {first : Json}
    {depth fuel : Nat} {t after rest : Text}, (∀ name value, (name, value) ∈ members →
    value.ReadsBack) → depth + nestingMembers members ≤ 127 →
    2 * (compactMembers members).length ≤ fuel →
    readValue .refuse depth fuel t = some (first, after) →
    skipBlanks after = compactMembers members ++ rest →
    readMembers .refuse depth (fuel + 1) (quote name ++ ':' :: t) =
      some ((name, first) :: members, rest)
  | [], name, first, depth, fuel, t, after, rest, hback, hdepth, hfuel, hfirst, hafter =>
      readMembers_last hfirst hafter
  | (next, value) :: members, name, first, depth, fuel, t, after, rest, hback, hdepth, hfuel,
    hfirst, hafter => by
      rw [nestingMembers] at hdepth
      rw [compactMembers] at hfuel hafter
      simp only [List.length_append, List.length_cons] at hfuel
      simp only [List.append_assoc, List.cons_append] at hafter
      cases fuel with
      | zero => omega
      | succ fuel =>
          obtain ⟨hend, hskip⟩ := endsNumber_compactMembers members rest
          obtain ⟨after', hvalue, hafter'⟩ := readValue_compact value depth fuel
            (hback _ _ List.mem_cons_self) (by omega) (by omega) hend
          exact readMembers_more hfirst hafter (readMembers_compactMembers members next
            (fun name value h => hback name value (List.mem_cons_of_mem _ h)) (by omega) (by omega)
            hvalue (hafter'.trans hskip))

end

/-- **A written document is read back**: on one line, from nothing but its text. -/
theorem read?_compact (hback : json.ReadsBack) (hnesting : json.nesting ≤ 127) :
    read? json.compact = some json := by
  obtain ⟨after, hread, hafter⟩ := readValue_compact json 0 (2 * json.compact.length + 2) hback
    (by omega) (by omega) (nofun : EndsNumber [])
  rw [List.append_nil] at hread
  exact read?_eq_some_iff.2 ⟨after, hread, hafter⟩

end TwoWaySql.Json
