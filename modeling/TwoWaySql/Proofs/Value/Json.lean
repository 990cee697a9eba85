import TwoWaySql.Proofs.Json.Writing
import TwoWaySql.Proofs.Value.Literal
import TwoWaySql.Value.Json

/-!
# The two ways from JSON to values agree

What a document denotes is told by its kind, in one relation: an integer that fits in 64 bits is
one, and every other number is the nearest floating point number. A document has a value as long as
no object occurs in it. Both ways to the value follow that relation, and the JSON form of a value,
also when it is written and read again, comes back as the same value.

## Main definitions

* `Json.HasObject` — the documents in which an object occurs.
* `Json.HasMember` — a name and the document that it denotes in an object.
* `Value.Denotes` — a document and its value.
-/
namespace TwoWaySql

namespace Json

/-- Whether an object occurs in a document, at any depth. -/
def HasObject (json : Json) : Prop := ∃ members, Occurs (object members) json

/-- Whether an object has a member of a name; of several, the last is denoted. -/
def HasMember (json : Json) (name : Text) (value : Json) : Prop :=
  ∃ earlier later, json = object (earlier ++ (name, value) :: later) ∧
    ∀ other, (name, other) ∉ later

theorem hasObject_array {items : List Json} :
    (array items).HasObject ↔ ∃ item ∈ items, item.HasObject := by
  constructor
  · rintro ⟨members, h⟩
    cases h with
    | item h hitem => exact ⟨_, hitem, members, h⟩
  · rintro ⟨item, hitem, members, h⟩
    exact ⟨members, .item h hitem⟩

theorem not_hasObject_of_kind {json : Json} (h : json.nesting = 0) : ¬ json.HasObject := by
  rintro ⟨members, h'⟩
  cases h' with
  | self => cases h
  | item => cases h
  | member => cases h

theorem member?_eq_some_iff {json value : Json} {name : Text} :
    json.member? name = some value ↔ json.HasMember name value := by
  cases json with
  | object members =>
      rw [member?, Option.map_eq_some_iff]
      simp only [List.find?_eq_some_iff_append, List.reverse_eq_iff]
      constructor
      · rintro ⟨⟨name', value'⟩, ⟨hname, later, earlier, hmembers, hlater⟩, rfl⟩
        obtain rfl : name' = name := by simpa using hname
        refine ⟨earlier.reverse, later.reverse, by simp [hmembers], fun other hother => ?_⟩
        simpa using hlater _ (List.mem_reverse.1 hother)
      · rintro ⟨earlier, later, hmembers, hlater⟩
        cases hmembers
        refine ⟨(name, value), ⟨by simp, later.reverse, earlier.reverse, by simp, ?_⟩, rfl⟩
        rintro ⟨name', other⟩ hother
        rw [List.mem_reverse] at hother
        have hne : name' ≠ name := by
          rintro rfl
          exact hlater other hother
        simpa using hne
  | _ =>
      constructor
      · intro h
        cases h
      · rintro ⟨earlier, later, h, -⟩
        cases h

end Json

namespace Value

/-- A document and the value that it denotes. -/
inductive Denotes : Json → Value → Prop
  | null : Denotes .null null
  | bool (b : Bool) : Denotes (.bool b) (bool b)
  | int (n : Int64) : Denotes (.int n.toInt) (int n)
  | long {i : Int} {x : Binary64} (hrange : ¬ Fits i) (hx : x.Rounds (decide (i < 0)) i.natAbs) :
    Denotes (.int i) (float x)
  | float (x : Binary64) : Denotes (.float x) (float x)
  | string (t : Text) : Denotes (.string t) (string t)
  | list {items : List Json} {values : List Value} (h : List.Forall₂ Denotes items values) :
    Denotes (.array items) (list values)

variable {json : Json} {v : Value}

/-! ## By the kind of the document -/

theorem rounds_iff_eq_ofInt {i : Int} {x : Binary64} :
    x.Rounds (decide (i < 0)) i.natAbs ↔ x = Binary64.ofInt i := by
  have hrounds : x.Rounds (decide (i < 0)) (i.natAbs / (1 : ℕ)) ↔ x = Binary64.ofInt i :=
    Binary64.rounds_iff_eq_ofRatio i.natAbs Nat.one_pos
  rwa [Nat.cast_one, div_one] at hrounds

theorem ofInteger_eq_iff {i : Int} : ofInteger i = v ↔ Denotes (.int i) v := by
  rw [ofInteger]
  rcases ofInt_cases i with ⟨n, hn, hok⟩ | ⟨hrange, e, herror⟩
  · rw [hok]
    constructor
    · rintro rfl
      rw [← hn]
      exact .int n
    · intro h
      cases h with
      | int n' => rw [Int64.toInt_inj.1 hn]
      | long hrange => exact absurd (toInt_eq_iff.1 hn).1 hrange
  · rw [herror]
    constructor
    · rintro rfl
      exact .long hrange (rounds_iff_eq_ofInt.2 rfl)
    · intro h
      cases h with
      | int n => exact absurd (toInt_eq_iff.1 (Eq.refl n.toInt)).1 hrange
      | long _ hx => rw [rounds_iff_eq_ofInt.1 hx]

mutual

/-- The value by the kind of a document is the one that it denotes. -/
theorem ofJson?_eq_some_iff : ∀ (json : Json) {v : Value}, ofJson? json = some v ↔ Denotes json v
  | .null, v => by
      rw [ofJson?, Option.some.injEq]
      constructor
      · rintro rfl
        exact .null
      · rintro ⟨⟩
        rfl
  | .bool b, v => by
      rw [ofJson?, Option.some.injEq]
      constructor
      · rintro rfl
        exact .bool b
      · rintro ⟨⟩
        rfl
  | .int i, v => by
      rw [ofJson?, Option.some.injEq, ofInteger_eq_iff]
  | .float x, v => by
      rw [ofJson?, Option.some.injEq]
      constructor
      · rintro rfl
        exact .float x
      · rintro ⟨⟩
        rfl
  | .string t, v => by
      rw [ofJson?, Option.some.injEq]
      constructor
      · rintro rfl
        exact .string t
      · rintro ⟨⟩
        rfl
  | .array items, v => by
      rw [ofJson?, Option.map_eq_some_iff]
      constructor
      · rintro ⟨values, hvalues, rfl⟩
        exact .list ((ofJsonAll?_eq_some_iff items).1 hvalues)
      · rintro ⟨⟩
        rename_i values h
        exact ⟨values, (ofJsonAll?_eq_some_iff items).2 h, rfl⟩
  | .object members, v => by
      rw [ofJson?]
      exact ⟨nofun, nofun⟩

theorem ofJsonAll?_eq_some_iff : ∀ (items : List Json) {values : List Value},
    ofJsonAll? items = some values ↔ List.Forall₂ Denotes items values
  | [], values => by
      rw [ofJsonAll?, List.forall₂_nil_left_iff, Option.some.injEq, eq_comm]
  | item :: items, values => by
      simp only [ofJsonAll?, List.forall₂_cons_left_iff, Option.bind_eq_bind,
        Option.bind_eq_some_iff, Option.some.injEq, ofJson?_eq_some_iff item,
        ofJsonAll?_eq_some_iff items]
      constructor
      · rintro ⟨value, hvalue, values, hvalues, rfl⟩
        exact ⟨value, values, hvalue, hvalues, rfl⟩
      · rintro ⟨value, values, hvalue, hvalues, rfl⟩
        exact ⟨value, hvalue, values, hvalues, rfl⟩

end

mutual

/-- The documents without a value are those in which an object occurs. -/
theorem ofJson?_eq_none_iff : ∀ json : Json, ofJson? json = none ↔ json.HasObject
  | .array items => by
      rw [ofJson?, Option.map_eq_none_iff, ofJsonAll?_eq_none_iff items, Json.hasObject_array]
  | .object members => by
      rw [ofJson?]
      exact ⟨fun _ => ⟨members, .self⟩, fun _ => rfl⟩
  | .null => ⟨nofun, fun h => absurd h (Json.not_hasObject_of_kind rfl)⟩
  | .bool b => ⟨nofun, fun h => absurd h (Json.not_hasObject_of_kind rfl)⟩
  | .int i => ⟨nofun, fun h => absurd h (Json.not_hasObject_of_kind rfl)⟩
  | .float x => ⟨nofun, fun h => absurd h (Json.not_hasObject_of_kind rfl)⟩
  | .string t => ⟨nofun, fun h => absurd h (Json.not_hasObject_of_kind rfl)⟩

theorem ofJsonAll?_eq_none_iff : ∀ items : List Json,
    ofJsonAll? items = none ↔ ∃ item ∈ items, item.HasObject
  | [] => ⟨nofun, by simp⟩
  | item :: items => by
      have hcons : (∃ x ∈ item :: items, x.HasObject) ↔
          item.HasObject ∨ ∃ x ∈ items, x.HasObject := by simp
      rw [hcons, ← ofJson?_eq_none_iff item, ← ofJsonAll?_eq_none_iff items, ofJsonAll?]
      cases ofJson? item with
      | none => simp
      | some value =>
          cases ofJsonAll? items with
          | none => simp
          | some values => simp

end

/-! ## By the first alternative -/

mutual

/-- The first alternative that takes a document gives the value by its kind. -/
theorem untagged?_eq_ofJson? : ∀ json : Json, untagged? json = ofJson? json
  | .array items => by
      rw [untagged?, ofJson?, untaggedAll?_eq_ofJsonAll? items]
  | .int i => by
      rw [ofJson?, ofInteger]
      show ((ofInt i).toOption <|> some (float (Binary64.ofInt i))) = _
      cases ofInt i <;> rfl
  | .object members => rfl
  | .null => rfl
  | .bool b => rfl
  | .float x => rfl
  | .string t => rfl

theorem untaggedAll?_eq_ofJsonAll? : ∀ items : List Json, untaggedAll? items = ofJsonAll? items
  | [] => rfl
  | item :: items => by
      rw [untaggedAll?, ofJsonAll?, untagged?_eq_ofJson? item, untaggedAll?_eq_ofJsonAll? items]

end

/-! ## The JSON form of a value -/

mutual

/-- The JSON form of a value denotes it. -/
theorem denotes_toJson : ∀ v : Value, Denotes v.toJson v
  | .null => .null
  | .bool b => .bool b
  | .int n => .int n
  | .float x => .float x
  | .string t => .string t
  | .list items => .list (denotes_toJsonAll items)

theorem denotes_toJsonAll : ∀ items : List Value, List.Forall₂ Denotes (toJsonAll items) items
  | [] => .nil
  | item :: items => .cons (denotes_toJson item) (denotes_toJsonAll items)

end

mutual

/-- The JSON form of a value nests like each document that denotes it. -/
theorem nesting_toJson : ∀ (v : Value) {json : Json}, Denotes json v →
    v.toJson.nesting = json.nesting
  | .null, json, h => by
      cases h
      rfl
  | .bool b, json, h => by
      cases h
      rfl
  | .int n, json, h => by
      cases h
      rfl
  | .float x, json, h => by
      cases h <;> rfl
  | .string t, json, h => by
      cases h
      rfl
  | .list values, json, h => by
      cases h with
      | list h => rw [toJson, Json.nesting, Json.nesting, nestingItems_toJsonAll values h]

theorem nestingItems_toJsonAll : ∀ (values : List Value) {items : List Json},
    List.Forall₂ Denotes items values →
      Json.nestingItems (toJsonAll values) = Json.nestingItems items
  | [], _, .nil => rfl
  | v :: values, item :: items, .cons hitem hitems => by
      rw [toJsonAll, Json.nestingItems, Json.nestingItems, nesting_toJson v hitem,
        nestingItems_toJsonAll values hitems]

end

theorem toJsonAll_eq_map (items : List Value) : toJsonAll items = items.map toJson := by
  induction items with
  | nil => rfl
  | cons item items ih => rw [toJsonAll, ih, List.map_cons]

/-- The integers in the JSON form of a value fit in 64 bits. -/
theorem exists_of_occurs_int {i : Int} : ∀ v : Value, Json.Occurs (.int i) v.toJson →
    ∃ n : Int64, n.toInt = i
  | .int n, h => by
      cases h
      exact ⟨n, rfl⟩
  | .list items, h => by
      rw [toJson, toJsonAll_eq_map] at h
      cases h with
      | item h hitem =>
          obtain ⟨item, hmem, rfl⟩ := List.mem_map.1 hitem
          exact exists_of_occurs_int item h
  | .null, h => nomatch h
  | .bool b, h => nomatch h
  | .float x, h => nomatch h
  | .string t, h => nomatch h

/-- The numbers in the JSON form of a value are read back as soon as its floating point numbers
are. -/
theorem readsBack_toJson (h : ∀ x, Json.Occurs (.float x) v.toJson →
    Json.read? (Json.compact (.float x)) = some (.float x)) : v.toJson.ReadsBack := by
  refine ⟨fun i hi => ?_, h⟩
  obtain ⟨n, rfl⟩ := exists_of_occurs_int v hi
  exact ⟨n.le_toInt, n.toInt_lt.trans (by decide)⟩

/-- The JSON form of a value is the value of what is read from its text. -/
theorem read?_toJson (hnesting : v.toJson.nesting ≤ 127)
    (h : ∀ x, Json.Occurs (.float x) v.toJson →
      Json.read? (Json.compact (.float x)) = some (.float x)) :
    (Json.read? v.toJson.compact).bind untagged? = some v := by
  rw [Json.read?_compact (readsBack_toJson h) hnesting, Option.bind_some, untagged?_eq_ofJson?,
    ofJson?_eq_some_iff]
  exact denotes_toJson v

theorem read?_half : Json.read? (Json.compact (.float ⟨0x3FE0000000000000⟩)) =
    some (.float ⟨0x3FE0000000000000⟩) := by
  have htext : Json.compact (.float ⟨0x3FE0000000000000⟩) = "0.5" := by decide +kernel
  have hscaled : Json.scaled? (Binary64.ofInt 5) (-1) = some ⟨0x3FE0000000000000⟩ := by
    decide +kernel
  have hnumber : Json.readNumber "0.5" = some (some (.float ⟨0x3FE0000000000000⟩), []) := by
    show some ((Json.scaled? (Binary64.ofInt 5) (-1)).bind _, []) = _
    rw [hscaled]
    rfl
  rw [htext]
  exact Json.read?_eq_some_iff.2 ⟨[], Json.readValue_of_readNumber hnumber, rfl⟩

/-! ## Fields -/

/-- A document has no field of a name if it has no member of it, or one with an object in it. -/
theorem ofJson_eq_none_iff {json : Json} {name : Text} : Data.ofJson json name = none ↔
    (∀ value, ¬ json.HasMember name value) ∨ ∃ value, json.HasMember name value ∧
      value.HasObject := by
  rw [Data.ofJson, Option.bind_eq_none_iff]
  simp only [Json.member?_eq_some_iff, ofJson?_eq_none_iff]
  constructor
  · intro h
    by_cases hmember : ∃ value, json.HasMember name value
    · obtain ⟨value, hvalue⟩ := hmember
      exact .inr ⟨value, hvalue, h value hvalue⟩
    · exact .inl (not_exists.1 hmember)
  · rintro (hnone | ⟨value, hvalue, hobject⟩) value' hvalue'
    · exact absurd hvalue' (hnone value')
    · rw [← Json.member?_eq_some_iff] at hvalue hvalue'
      rw [hvalue] at hvalue'
      cases hvalue'
      exact hobject

/-- **The two ways from JSON to values agree.** A document has no value exactly if an object occurs
in it, and otherwise the one that it denotes, in both ways. The JSON form of the value comes back
as the value, and so does its text, for a document that is read from one, if its floating point
numbers are read back. A field is missing exactly if there is no member or an object occurs in
it. -/
theorem ofJson?_exact (json : Json) :
    (ofJson? json = none ↔ json.HasObject) ∧
    untagged? json = ofJson? json ∧
    (∀ v, ofJson? json = some v ↔ Denotes json v) ∧
    (∀ v, ofJson? json = some v → untagged? v.toJson = some v ∧
      ∀ t, Json.read? t = some json →
        (∀ x, Json.Occurs (.float x) v.toJson →
          Json.read? (Json.compact (.float x)) = some (.float x)) →
        (Json.read? v.toJson.compact).bind untagged? = some v) ∧
    ∀ name, Data.ofJson json name = none ↔ (∀ value, ¬ json.HasMember name value) ∨
      ∃ value, json.HasMember name value ∧ value.HasObject := by
  refine ⟨ofJson?_eq_none_iff json, untagged?_eq_ofJson? json, fun v => ofJson?_eq_some_iff json,
    fun v hv => ⟨?_, fun t ht hfloats => read?_toJson ?_ hfloats⟩, fun name => ofJson_eq_none_iff⟩
  · rw [untagged?_eq_ofJson?, ofJson?_eq_some_iff]
    exact denotes_toJson v
  · rw [nesting_toJson v ((ofJson?_eq_some_iff json).1 hv)]
    exact Json.nesting_le_of_read? ht

/-- The list of a half and of a list of a string and an integer is read back from its text. -/
theorem ofJson?_exact_nested :
    Json.read? "[0.5,[\"a\",7]]" =
      some (.array [.float ⟨0x3FE0000000000000⟩, .array [.string "a", .int 7]]) ∧
    (Json.read? (toJson (list [float ⟨0x3FE0000000000000⟩, list [string "a", int 7]])).compact).bind
      untagged? = some (list [float ⟨0x3FE0000000000000⟩, list [string "a", int 7]]) := by
  have hfloats : ∀ x, Json.Occurs (.float x)
      (toJson (list [float ⟨0x3FE0000000000000⟩, list [string "a", int 7]])) →
      Json.read? (Json.compact (.float x)) = some (.float x) := by
    intro x h
    cases h with
    | item h hitem =>
        rcases List.mem_cons.1 hitem with rfl | hitem
        · cases h
          exact read?_half
        · obtain rfl := List.mem_singleton.1 hitem
          cases h with
          | item h hitem =>
              rcases List.mem_cons.1 hitem with rfl | hitem
              · cases h
              · obtain rfl := List.mem_singleton.1 hitem
                cases h
  have htext : Json.compact (.array [.float ⟨0x3FE0000000000000⟩, .array [.string "a", .int 7]]) =
      "[0.5,[\"a\",7]]" := by decide +kernel
  have hread := Json.read?_compact (readsBack_toJson hfloats) (by decide)
  have hjson : ofJson? (.array [.float ⟨0x3FE0000000000000⟩, .array [.string "a", .int 7]]) =
      some (list [float ⟨0x3FE0000000000000⟩, list [string "a", int 7]]) :=
    (ofJson?_eq_some_iff _).2
      (denotes_toJson (list [float ⟨0x3FE0000000000000⟩, list [string "a", int 7]]))
  refine ⟨htext ▸ hread, ?_⟩
  exact (((ofJson?_exact _).2.2.2.1 _ hjson).2 _ hread) hfloats

end Value

end TwoWaySql
