/-!
# Text

A text is the list of its Unicode scalar values. Offsets into a text are measured in bytes of
its UTF-8 form, so a prefix of a text and an offset at a character boundary say the same thing.
-/
namespace TwoWaySql

/-- A sequence of Unicode scalar values. -/
abbrev Text := List Char

instance : Coe String Text := ⟨String.toList⟩

namespace Text

/-- The number of bytes of the UTF-8 form. -/
def byteSize : Text → Nat
  | [] => 0
  | c :: rest => c.utf8Size + byteSize rest

@[simp] theorem byteSize_nil : byteSize [] = 0 := rfl

@[simp] theorem byteSize_cons (c : Char) (rest : Text) :
    byteSize (c :: rest) = c.utf8Size + byteSize rest := rfl

@[simp] theorem byteSize_append (s t : Text) : byteSize (s ++ t) = byteSize s + byteSize t := by
  induction s with
  | nil => simp
  | cons c rest ih => simp [ih, Nat.add_assoc]

/-- The longest prefix that fits in `n` bytes. -/
def takeBytes (n : Nat) : Text → Text
  | [] => []
  | c :: rest => if c.utf8Size ≤ n then c :: takeBytes (n - c.utf8Size) rest else []

/-- Cutting at the size of a prefix gives the prefix back. -/
@[simp] theorem takeBytes_byteSize_append (s t : Text) : takeBytes (byteSize s) (s ++ t) = s := by
  induction s with
  | nil =>
    cases t with
    | nil => rfl
    | cons c rest => simp [takeBytes, Nat.not_le.2 (Char.utf8Size_pos c)]
  | cons c rest ih => simp [takeBytes, ih]

/-- The text before and after the first occurrence of `pattern`. -/
def cut (t pattern : Text) : Option (Text × Text) :=
  match t with
  | [] => if pattern.isEmpty then some ([], []) else none
  | c :: rest =>
    if pattern.isPrefixOf (c :: rest) then some ([], (c :: rest).drop pattern.length)
    else (cut rest pattern).map fun (before, after) => (c :: before, after)

/-- A cut loses nothing but the pattern. -/
theorem eq_of_cut {pattern t before after : Text} (h : t.cut pattern = some (before, after)) :
    t = before ++ pattern ++ after := by
  induction t generalizing before after with
  | nil => simp_all [cut]
  | cons c rest ih =>
    unfold cut at h
    split at h
    · next hp =>
      obtain ⟨tail, hc⟩ := List.isPrefixOf_iff_prefix.1 hp
      simp only [Option.some.injEq, Prod.mk.injEq] at h
      obtain ⟨rfl, rfl⟩ := h
      simp [← hc]
    · obtain ⟨⟨b, a⟩, hb, heq⟩ := Option.map_eq_some_iff.1 h
      simp only [Prod.mk.injEq] at heq
      obtain ⟨rfl, rfl⟩ := heq
      simpa using ih hb

/-- What follows a cut is shorter by at least the pattern. -/
theorem length_of_cut {pattern t before after : Text} (h : t.cut pattern = some (before, after)) :
    t.length = before.length + pattern.length + after.length := by
  rw [eq_of_cut h]; simp; omega

/-- Puts an element in front of the first of several rows. -/
def extend {α : Type} (c : α) : List (List α) → List (List α)
  | [] => [[c]]
  | t :: rest => (c :: t) :: rest

/-- The pieces of a text, or of any row, between the occurrences of one element. -/
def splitOn {α : Type} [DecidableEq α] (separator : α) : List α → List (List α)
  | [] => [[]]
  | c :: rest =>
    if c = separator then [] :: splitOn separator rest else extend c (splitOn separator rest)

/-- The texts, or rows, in order, with `separator` between neighbours. -/
def join {α : Type} (separator : List α) : List (List α) → List α
  | [] => []
  | [t] => t
  | t :: rest => t ++ separator ++ join separator rest

/-- The decimal digits of a natural number. -/
def ofNat (n : Nat) : Text := Nat.toDigits 10 n

/-- The decimal digits of an integer, after a minus sign if it is negative. -/
def ofInt (i : Int) : Text := if i < 0 then '-' :: ofNat i.natAbs else ofNat i.natAbs

/-- Whether a character is one of the ten ASCII digits. -/
def isAsciiDigit (c : Char) : Bool := '0' ≤ c && c ≤ '9'

/-- The number that a row of ASCII digits denotes. -/
def toNat (digits : Text) : Nat := digits.foldl (fun n c => 10 * n + (c.toNat - '0'.toNat)) 0

/-- The text with its ASCII capitals in lower case. -/
def toLower (t : Text) : Text := t.map Char.toLower

/-- The text with its ASCII letters in upper case. -/
def toUpper (t : Text) : Text := t.map Char.toUpper

/-- The texts in order, each on a line of its own. -/
def lines (ts : List Text) : Text := ts.flatMap fun t => t ++ ['\n']

end Text

end TwoWaySql
