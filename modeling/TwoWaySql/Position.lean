import TwoWaySql.Text.Basic

/-!
# Positions

A position names a place in a text three ways: by the bytes before it, by its line and by its
column in that line. Lines end at line feeds; columns count characters; both start at one.
-/
namespace TwoWaySql

/-- A place in a text. -/
structure Position where
  /-- The number of bytes before the place. -/
  offset : Nat
  /-- The line, from one. -/
  line : Nat
  /-- The column in the line, from one. -/
  column : Nat
deriving DecidableEq, Repr

namespace Position

/-- The place before the first character. -/
def start : Position := ⟨0, 1, 1⟩

/-- The place one character further on. -/
def step (p : Position) (c : Char) : Position :=
  if c = '\n' then ⟨p.offset + c.utf8Size, p.line + 1, 1⟩
  else ⟨p.offset + c.utf8Size, p.line, p.column + 1⟩

/-- The place that is reached by passing over a text. -/
def advance (p : Position) (t : Text) : Position := t.foldl step p

@[simp] theorem advance_nil (p : Position) : p.advance [] = p := rfl

@[simp] theorem advance_cons (p : Position) (c : Char) (t : Text) :
    p.advance (c :: t) = (p.step c).advance t := rfl

@[simp] theorem advance_append (p : Position) (s t : Text) :
    p.advance (s ++ t) = (p.advance s).advance t := by
  simp [advance]

/-- The place right after `before`. -/
def after (before : Text) : Position := start.advance before

theorem advance_after (u t : Text) : (after u).advance t = after (u ++ t) :=
  (advance_append start u t).symm

/-- The place in `source` at a byte offset. -/
def ofOffset (source : Text) (offset : Nat) : Position := after (source.takeBytes offset)

@[simp] theorem offset_step (p : Position) (c : Char) :
    (p.step c).offset = p.offset + c.utf8Size := by
  unfold step; split <;> rfl

@[simp] theorem offset_advance (p : Position) (t : Text) :
    (p.advance t).offset = p.offset + t.byteSize := by
  induction t generalizing p with
  | nil => rfl
  | cons c rest ih => simp [ih, Nat.add_assoc]

/-- The offset of the place after a text is the size of the text. -/
@[simp] theorem offset_after (before : Text) : (after before).offset = before.byteSize := by
  simp [after, start]

/-- An offset at the end of a prefix denotes the place after that prefix. -/
@[simp] theorem ofOffset_byteSize_append (s t : Text) :
    ofOffset (s ++ t) s.byteSize = after s := by
  simp [ofOffset]

/-- The wording used in messages. -/
def describe (p : Position) : Text :=
  "line " ++ Text.ofNat p.line ++ ", column " ++ Text.ofNat p.column

end Position

end TwoWaySql
