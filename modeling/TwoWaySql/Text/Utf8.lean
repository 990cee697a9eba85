import TwoWaySql.Text.Basic

/-!
# UTF-8

A text has one row of bytes, but not each row of bytes is that of a text. Shown as a text, bytes
that no character is read from become the replacement character: one for as many of them as might
have gone on to a character, or else one for a byte.

## Main definitions

* `Text.utf8` — the bytes of a text.
* `Text.ofUtf8Lossy` — the text that bytes are shown as.
-/
namespace TwoWaySql.Text

/-- The bytes of the UTF-8 form. -/
def utf8 (t : Text) : List UInt8 := t.flatMap String.utf8EncodeChar

/-- What is shown for bytes that no character is read from. -/
def replacement : Char := '\uFFFD'

/-- The character at the start of bytes. -/
def utf8Head? (bytes : List UInt8) : Option Char := bytes.toByteArray.utf8DecodeChar? 0

/-- Whether a byte goes on with a character. -/
def continues (b : UInt8) : Bool := 0x80 ≤ b && b ≤ 0xBF

/-- Whether two bytes can start a character of three bytes. -/
def opensThree (a b : UInt8) : Bool :=
  (a == 0xE0 && 0xA0 ≤ b && b ≤ 0xBF) || (0xE1 ≤ a && a ≤ 0xEC && continues b) ||
    (a == 0xED && 0x80 ≤ b && b ≤ 0x9F) || (0xEE ≤ a && a ≤ 0xEF && continues b)

/-- Whether two bytes can start a character of four bytes. -/
def opensFour (a b : UInt8) : Bool :=
  (a == 0xF0 && 0x90 ≤ b && b ≤ 0xBF) || (0xF1 ≤ a && a ≤ 0xF3 && continues b) ||
    (a == 0xF4 && 0x80 ≤ b && b ≤ 0x8F)

/-- How many bytes are shown as one replacement where no character is read. -/
def brokenLength : List UInt8 → Nat
  | a :: b :: c :: _ =>
    if opensFour a b && continues c then 3 else if opensThree a b || opensFour a b then 2 else 1
  | [a, b] => if opensThree a b || opensFour a b then 2 else 1
  | _ => 1

/-- The text that bytes are shown as, behind `skip` more bytes of what has been shown already. -/
def ofUtf8LossyFrom (skip : Nat) : List UInt8 → Text
  | [] => []
  | b :: bytes =>
    match skip with
    | skip + 1 => ofUtf8LossyFrom skip bytes
    | 0 =>
      match utf8Head? (b :: bytes) with
      | some c => c :: ofUtf8LossyFrom (c.utf8Size - 1) bytes
      | none => replacement :: ofUtf8LossyFrom (brokenLength (b :: bytes) - 1) bytes

/-- The text that bytes are shown as. -/
def ofUtf8Lossy (bytes : List UInt8) : Text := ofUtf8LossyFrom 0 bytes

@[simp] theorem utf8_cons (c : Char) (t : Text) :
    utf8 (c :: t) = String.utf8EncodeChar c ++ utf8 t := rfl

theorem utf8EncodeChar_ne_nil (c : Char) : String.utf8EncodeChar c ≠ [] := by
  intro hnil
  have hlength := String.length_utf8EncodeChar c
  rw [hnil, List.length_nil] at hlength
  exact absurd hlength (Nat.ne_of_lt (Char.utf8Size_pos c))

theorem utf8Head?_append (c : Char) (bytes : List UInt8) :
    utf8Head? (String.utf8EncodeChar c ++ bytes) = some c := by
  rw [utf8Head?, List.toByteArray_append]
  exact ByteArray.utf8DecodeChar?_utf8EncodeChar_append

theorem exists_of_utf8Head? {bytes : List UInt8} {c : Char} (h : utf8Head? bytes = some c) :
    ∃ rest, bytes = String.utf8EncodeChar c ++ rest := by
  obtain ⟨rest, hrest⟩ := ByteArray.exists_of_utf8DecodeChar?_eq_some h
  refine ⟨rest.data.toList, ?_⟩
  have hdata := congrArg (fun b : ByteArray => b.data.toList) hrest
  simpa using hdata

theorem ofUtf8LossyFrom_eq (skip : Nat) (bytes : List UInt8) :
    ofUtf8LossyFrom skip bytes = ofUtf8Lossy (bytes.drop skip) := by
  induction skip generalizing bytes with
  | zero => rfl
  | succ skip ih =>
    cases bytes with
    | nil => rfl
    | cons b bytes => exact ih bytes

theorem ofUtf8Lossy_encode_append (c : Char) (bytes : List UInt8) :
    ofUtf8Lossy (String.utf8EncodeChar c ++ bytes) = c :: ofUtf8Lossy bytes := by
  have hhead := utf8Head?_append c bytes
  have hlength := String.length_utf8EncodeChar c
  obtain ⟨b, more, hcons⟩ := List.exists_cons_of_ne_nil (utf8EncodeChar_ne_nil c)
  rw [hcons, List.length_cons] at hlength
  rw [hcons, List.cons_append] at hhead ⊢
  have hmore : c.utf8Size - 1 = more.length := by omega
  rw [ofUtf8Lossy, ofUtf8LossyFrom, hhead]
  simp only [ofUtf8LossyFrom_eq, hmore, List.drop_left]

theorem ofUtf8Lossy_cons_of_none {b : UInt8} {bytes : List UInt8}
    (h : utf8Head? (b :: bytes) = none) : ofUtf8Lossy (b :: bytes) =
      replacement :: ofUtf8Lossy (bytes.drop (brokenLength (b :: bytes) - 1)) := by
  rw [ofUtf8Lossy, ofUtf8LossyFrom, h]
  simp only [ofUtf8LossyFrom_eq]

/-- Bytes are read from the left: a character, or as many as are shown as one replacement. -/
theorem utf8_induction {P : List UInt8 → Prop} (nil : P [])
    (char : ∀ c bytes, P bytes → P (String.utf8EncodeChar c ++ bytes))
    (broken : ∀ b bytes, utf8Head? (b :: bytes) = none →
      P (bytes.drop (brokenLength (b :: bytes) - 1)) → P (b :: bytes)) (bytes : List UInt8) :
    P bytes := by
  induction hlength : bytes.length using Nat.strongRecOn generalizing bytes with
  | ind n ih =>
    subst hlength
    cases bytes with
    | nil => exact nil
    | cons b bytes =>
      cases h : utf8Head? (b :: bytes) with
      | some c =>
        obtain ⟨rest, hrest⟩ := exists_of_utf8Head? h
        have hpos := List.length_pos_iff.2 (utf8EncodeChar_ne_nil c)
        have hshorter : rest.length < (b :: bytes).length := by
          rw [hrest, List.length_append]
          omega
        rw [hrest]
        exact char c rest (ih rest.length hshorter rest rfl)
      | none =>
        refine broken b bytes h (ih _ ?_ _ rfl)
        rw [List.length_drop, List.length_cons]
        omega

/-- A text is shown as itself. -/
theorem ofUtf8Lossy_utf8 (t : Text) : ofUtf8Lossy (utf8 t) = t := by
  induction t with
  | nil => rfl
  | cons c t ih => rw [utf8_cons, ofUtf8Lossy_encode_append, ih]

/-- Bytes that are shown without a replacement are those of a text. -/
theorem utf8_ofUtf8Lossy {bytes : List UInt8} (h : replacement ∉ ofUtf8Lossy bytes) :
    utf8 (ofUtf8Lossy bytes) = bytes := by
  induction bytes using utf8_induction with
  | nil => rfl
  | char c bytes ih =>
    rw [ofUtf8Lossy_encode_append] at h ⊢
    rw [utf8_cons, ih fun hmem => h (List.mem_cons_of_mem c hmem)]
  | broken b bytes hnone ih =>
    rw [ofUtf8Lossy_cons_of_none hnone] at h
    exact absurd List.mem_cons_self h

theorem utf8EncodeChar_slash : String.utf8EncodeChar '/' = [0x2F] := by decide

/-- The byte of a slash is in no other character. -/
theorem eq_slash_of_mem_utf8EncodeChar {c : Char} (h : 0x2F ∈ String.utf8EncodeChar c) :
    c = '/' := by
  have hbyte : ∀ n : Nat, (0x2F : UInt8) = UInt8.ofNat n → n % 256 = 0x2F := by
    intro n hn
    simpa using (congrArg UInt8.toNat hn).symm
  simp only [String.utf8EncodeChar] at h
  split at h
  · have hval := hbyte _ (List.mem_singleton.1 h)
    rw [← Char.toNat_inj]
    change c.val.toNat = 0x2F
    omega
  · -- the bytes of a longer form are larger
    exfalso
    split at h
    · simp only [List.mem_cons, List.not_mem_nil, or_false] at h
      rcases h with h | h <;> exact absurd (hbyte _ h) (by omega)
    · split at h <;> simp only [List.mem_cons, List.not_mem_nil, or_false] at h
      · rcases h with h | h | h <;> exact absurd (hbyte _ h) (by omega)
      · rcases h with h | h | h | h <;> exact absurd (hbyte _ h) (by omega)

/-- A slash is shown for the byte of a slash only. -/
theorem slash_mem_of_mem_ofUtf8Lossy {bytes : List UInt8} (h : '/' ∈ ofUtf8Lossy bytes) :
    0x2F ∈ bytes := by
  induction bytes using utf8_induction with
  | nil => cases h
  | char c bytes ih =>
    rw [ofUtf8Lossy_encode_append, List.mem_cons] at h
    rcases h with rfl | h
    · simp [utf8EncodeChar_slash]
    · exact List.mem_append_right _ (ih h)
  | broken b bytes hnone ih =>
    rw [ofUtf8Lossy_cons_of_none hnone, List.mem_cons] at h
    exact List.mem_cons_of_mem b (List.mem_of_mem_drop (ih (h.resolve_left (by decide))))

/-- Bytes that were cut off a character are shown as one replacement. -/
example : ofUtf8Lossy [0x61, 0xE2, 0x82, 0x2F, 0xFF] = "a\uFFFD/\uFFFD" := by decide

end TwoWaySql.Text
