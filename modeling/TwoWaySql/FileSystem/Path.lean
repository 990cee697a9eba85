import TwoWaySql.FileSystem.Unit

/-!
# Paths

A path is a row of units whose slashes separate components. Reading it as components drops repeated
slashes and dots inside it; joining and cutting keep it as it is written otherwise. Where nothing
else is said the units are characters. What is written about a path into a text, the way from one
directory to another, has its names as they are shown.
-/
namespace TwoWaySql

open NameUnit

/-- A path as it is written. -/
structure Path (α : Type := Char) where
  /-- The units of the path. -/
  text : List α
deriving DecidableEq, Repr

/-- A step of a path. -/
inductive Component (α : Type := Char) where
  /-- The root directory. -/
  | root
  /-- The directory itself, at the start of a relative path. -/
  | here
  /-- The parent directory. -/
  | up
  /-- An entry of the directory. -/
  | name (t : List α)
deriving DecidableEq, Repr

variable {α : Type} [DecidableEq α] [NameUnit α]

namespace Component

/-- The step that a piece between slashes stands for inside a path. -/
def ofPiece? (piece : List α) : Option (Component α) :=
  if piece = [] ∨ piece = [dot] then none
  else if piece = [dot, dot] then some up
  else some (name piece)

/-- The step as it is written. -/
def text : Component α → List α
  | root => [slash]
  | here => [dot]
  | up => [dot, dot]
  | name t => t

end Component

namespace Path

/-- The empty path. -/
def empty : Path α := ⟨[]⟩

/-- Whether the path starts at the root. -/
def isAbsolute (p : Path α) : Bool := p.text.head? == some slash

/-- The pieces between the slashes of the path. -/
def pieces (p : Path α) : List (List α) := Text.splitOn slash p.text

/-- The steps of the path. -/
def components (p : Path α) : List (Component α) :=
  let steps := p.pieces.filterMap Component.ofPiece?
  if p.isAbsolute then .root :: steps
  else if p.pieces.head? = some [dot] then .here :: steps
  else steps

/-- A path under the directory that a path names; an absolute path stays what it is. -/
def join (p q : Path α) : Path α :=
  if q.isAbsolute then q
  else if p.text.isEmpty || p.text.getLast? == some slash then ⟨p.text ++ q.text⟩
  else ⟨p.text ++ slash :: q.text⟩

/-- The pieces without those at the end that are no steps. -/
def dropSilent (reversed : List (List α)) : List (List α) :=
  reversed.dropWhile fun piece => (Component.ofPiece? piece).isNone

/-- The path without its last step: none for the root and for the empty path. -/
def parent? (p : Path α) : Option (Path α) :=
  if p.isAbsolute then
    match dropSilent p.pieces.tail.reverse with
    | [] => none
    | _ :: before => some ⟨slash :: Text.join [slash] (dropSilent before).reverse⟩
  else
    match p.pieces with
    | [] => none
    | first :: rest =>
      match dropSilent rest.reverse with
      | [] => if first.isEmpty then none else some empty
      | _ :: before => some ⟨Text.join [slash] (first :: (dropSilent before).reverse)⟩

/-- The path and its parents, innermost first; `fuel` bounds their number. -/
def ancestorsUpTo (p : Path α) : Nat → List (Path α)
  | 0 => [p]
  | fuel + 1 =>
    match p.parent? with
    | none => [p]
    | some parent => p :: parent.ancestorsUpTo fuel

/-- The path and its parents, innermost first. Each parent has a shorter text. -/
def ancestors (p : Path α) : List (Path α) := p.ancestorsUpTo p.text.length

end Path

namespace FileName

/-- A file name up to its last dot, and what follows the dot. A dot at the start of the name does
not count. -/
def split (name : Text) : Text × Option Text :=
  match Text.cut name.reverse ['.'] with
  | some (extension, stem) =>
    if stem.isEmpty then (name, none) else (stem.reverse, some extension.reverse)
  | none => (name, none)

/-- The name without its extension. -/
def stem (name : Text) : Text := (split name).1

/-- What follows the last dot of the name. -/
def extension? (name : Text) : Option Text := (split name).2

end FileName

namespace Path

/-- Adds a step to a path. -/
def push (p : Path α) (c : Component α) : Path α := p.join ⟨c.text⟩

/-- The path seen from the root, given the current directory; the empty path has none. Steps to
parents stay, a slash at the end stays, and so do exactly two slashes at the start. -/
def absolute? (cwd p : Path α) : Option (Path α) :=
  if p.text.isEmpty then none
  else
    let steps := match p.components with
      | .here :: rest => rest
      | steps => steps
    let twoSlashes := p.text.take 2 = [slash, slash] ∧ (p.text.drop 2).head? ≠ some slash
    let whole :=
      if twoSlashes then steps.tail.foldl push ⟨[slash, slash]⟩
      else if p.isAbsolute then steps.foldl push empty
      else steps.foldl push cwd
    some (if p.text.getLast? = some slash then whole.join empty else whole)

/-- Takes one more step, a step to the parent undoing a name. The steps taken are reversed. -/
def normalStep (taken : List (Component α)) (c : Component α) : List (Component α) :=
  match c, taken with
  | .here, _ => taken
  | .up, .name _ :: before => before
  | .up, _ => taken
  | c, _ => c :: taken

/-- The steps of a path with those to the parent carried out: those that undo no name are
dropped. -/
def normalize (p : Path α) : List (Component α) := (p.components.foldl normalStep []).reverse

/-- The number of steps at the start that two lists share. -/
def commonLength : List (Component α) → List (Component α) → Nat
  | a :: as, b :: bs => if a = b then commonLength as bs + 1 else 0
  | _, _ => 0

/-- The way from a directory to another: steps to the parent, then names as they are shown, each
with a slash. There is none between paths without a common start. -/
def relative? (source target : Path α) : Option Text :=
  let source := source.normalize
  let target := target.normalize
  let shared := commonLength source target
  if shared = 0 then none
  else
    some ((List.replicate (source.length - shared) ("../" : Text)).flatten ++
      (target.drop shared).flatMap fun c => shown c.text ++ ['/'])

/-- What leads from the directory of a generated file to the templates in `dir`: the relative way
if there is one, and the absolute path of the templates otherwise. -/
def templatePrefix (cwd dir output : Path α) : Text :=
  let outputDir := output.parent?.getD dir
  let relative := do
    let source ← absolute? cwd outputDir
    let target ← absolute? cwd dir
    relative? source target
  match relative with
  | some way => way
  | none =>
    let whole := (shown ((absolute? cwd dir).getD dir).text).map fun c =>
      if c = '\\' then '/' else c
    (whole.reverse.dropWhile (· = '/')).reverse ++ ['/']

end Path

end TwoWaySql
