import TwoWaySql.Text.Utf8

/-!
# Units of names

The names of entries are rows of units. On disk these are bytes, and any byte but that of a slash
may stand in a name, so that not each name is a text. Where all names are texts, the units can be
taken to be the characters themselves.

## Main definitions

* `NameUnit` — what names are made of, and the text that a name is shown as.
-/
namespace TwoWaySql

/-- What the names of entries are made of. A character has a row of units, a slash and a dot have
one each. Any units are shown as a text; what is not those of a text has replacements there. -/
class NameUnit (α : Type) where
  /-- The unit between the steps of a path. -/
  slash : α
  /-- The unit of the steps that are no names. -/
  dot : α
  /-- The units of a character. -/
  encode : Char → List α
  /-- The text that units are shown as. -/
  shown : List α → Text
  encode_slash : encode '/' = [slash]
  encode_dot : encode '.' = [dot]
  /-- No other character has the unit of a slash. -/
  eq_of_slash_mem : ∀ c, slash ∈ encode c → c = '/'
  /-- A text is shown as itself. -/
  shown_encode : ∀ t : Text, shown (t.flatMap encode) = t
  /-- Units that are shown without a replacement are those of a text. -/
  encode_shown : ∀ us, Text.replacement ∉ shown us → (shown us).flatMap encode = us
  /-- A slash is shown only for the unit of a slash. -/
  slash_mem_of_shown : ∀ us, '/' ∈ shown us → slash ∈ us

/-- Names that are texts. -/
instance : NameUnit Char where
  slash := '/'
  dot := '.'
  encode c := [c]
  shown t := t
  encode_slash := rfl
  encode_dot := rfl
  eq_of_slash_mem _ h := (List.mem_singleton.1 h).symm
  shown_encode t := List.flatMap_singleton' t
  encode_shown us _ := List.flatMap_singleton' us
  slash_mem_of_shown _ h := h

@[simp] theorem NameUnit.slash_char : (NameUnit.slash : Char) = '/' := rfl

/-- Names of bytes, which may not be the bytes of a text. -/
instance : NameUnit UInt8 where
  slash := 0x2F
  dot := 0x2E
  encode := String.utf8EncodeChar
  shown := Text.ofUtf8Lossy
  encode_slash := by decide
  encode_dot := by decide
  eq_of_slash_mem _ := Text.eq_slash_of_mem_utf8EncodeChar
  shown_encode := Text.ofUtf8Lossy_utf8
  encode_shown _ := Text.utf8_ofUtf8Lossy
  slash_mem_of_shown _ := Text.slash_mem_of_mem_ofUtf8Lossy

namespace NameUnit

variable {α : Type} [NameUnit α]

/-- The units of a text. -/
def ofText (t : Text) : List α := t.flatMap encode

/-- Whether units are those of a text. -/
def IsText (us : List α) : Prop := ofText (shown us) = us

instance [DecidableEq α] (us : List α) : Decidable (IsText us) :=
  inferInstanceAs (Decidable (ofText (shown us) = us))

theorem ofText_append (s t : Text) : (ofText (s ++ t) : List α) = ofText s ++ ofText t :=
  List.flatMap_append

theorem ofText_slash_cons (t : Text) : (ofText ('/' :: t) : List α) = slash :: ofText t := by
  rw [ofText, List.flatMap_cons, encode_slash]
  rfl

@[simp] theorem shown_ofText (t : Text) : shown (ofText t : List α) = t := shown_encode t

theorem ofText_injective {s t : Text} (h : (ofText s : List α) = ofText t) : s = t := by
  rw [← shown_ofText (α := α) s, h, shown_ofText]

theorem slash_mem_ofText {t : Text} (h : (slash : α) ∈ ofText t) : '/' ∈ t := by
  obtain ⟨c, hc, hmem⟩ := List.mem_flatMap.1 h
  exact eq_of_slash_mem c hmem ▸ hc

theorem slash_ne_dot : (slash : α) ≠ dot := by
  intro heq
  have hmem : (slash : α) ∈ encode '.' := by simp [encode_dot, heq]
  exact absurd (eq_of_slash_mem _ hmem) (by decide)

theorem ofText_dot : (ofText ['.'] : List α) = [dot] := by simp [ofText, encode_dot]

theorem ofText_dots : (ofText ['.', '.'] : List α) = [dot, dot] := by simp [ofText, encode_dot]

theorem eq_ofText_of_shown {us : List α} {t : Text} (h : shown us = t)
    (ht : Text.replacement ∉ t) : us = ofText t := by
  subst h
  exact (encode_shown us ht).symm

/-- Units are found again in what they are shown as exactly if they are those of texts. -/
theorem map_ofText_shown_iff (us : List (List α)) :
    (us.map shown).map ofText = us ↔ ∀ u ∈ us, IsText u := by
  induction us with
  | nil => simp
  | cons u us ih =>
    rw [List.map_cons, List.map_cons, List.cons.injEq, ih, List.forall_mem_cons]
    rfl

end NameUnit

end TwoWaySql
