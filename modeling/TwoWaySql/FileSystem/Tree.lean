import TwoWaySql.FileSystem.Path

/-!
# File trees

A file tree says for each place what stands there: nothing, a file, a directory, or a sink, which
takes whatever is written to it and keeps nothing. Paths are followed step by step from the root or
from the current directory, a step to the parent being taken where the steps before it lead.
-/
namespace TwoWaySql

/-- What a file holds. -/
inductive Content where
  /-- Text. -/
  | text (t : Text)
  /-- Bytes that are no text. -/
  | binary (bytes : List UInt8)
deriving DecidableEq, Repr

/-- What a file of the given bytes holds. -/
def Content.ofBytes (bytes : List UInt8) : Content :=
  match String.fromUTF8? ⟨bytes.toArray⟩ with
  | some s => text s.toList
  | none => binary bytes

/-- What stands at a place. -/
inductive Entry where
  /-- A file. -/
  | file (content : Content)
  /-- A directory. -/
  | directory
  /-- A special file like the null device: what is written to it is gone, and it reads as empty. -/
  | sink
deriving DecidableEq, Repr

/-- Why a file cannot be read or written. -/
inductive FileError where
  /-- Nothing stands there. -/
  | notFound
  /-- Something stands there already. -/
  | alreadyExists
  /-- A step leads into something that is no directory. -/
  | notDirectory
  /-- A directory stands there. -/
  | isDirectory
  /-- The file holds no text. -/
  | notText
  /-- There is no place to create a directory in. -/
  | noRoot
deriving DecidableEq, Repr

namespace FileError

/-- The wording for people. -/
def message : FileError → Text
  | notFound => "No such file or directory (os error 2)"
  | alreadyExists => "File exists (os error 17)"
  | notDirectory => "Not a directory (os error 20)"
  | isDirectory => "Is a directory (os error 21)"
  | notText => "stream did not contain valid UTF-8"
  | noRoot => "failed to create whole tree"

end FileError

/-- A place in a file tree: the names that lead to it from the root. -/
abbrev Place := List Text

/-- A file tree with a current directory. -/
structure Tree where
  /-- The current directory. -/
  cwd : Place
  /-- What stands at places other than the root. -/
  entries : List (Place × Entry)
  /-- No place occurs twice. -/
  nodup : (entries.map (·.1)).Nodup
deriving DecidableEq, Repr

namespace Tree

/-! ## Places -/

/-- What stands at a place; at the root there is a directory. -/
def get? (tree : Tree) (place : Place) : Option Entry :=
  if place.isEmpty then some .directory
  else (tree.entries.find? (·.1 = place)).map (·.2)

/-- Leaving entries out keeps every place at most once. -/
theorem nodup_filter (tree : Tree) (p : Place × Entry → Bool) :
    ((tree.entries.filter p).map (·.1)).Nodup :=
  tree.nodup.sublist (List.filter_sublist.map _)

/-- The tree with an entry at a place. -/
def set (tree : Tree) (place : Place) (entry : Entry) : Tree where
  cwd := tree.cwd
  entries := (place, entry) :: tree.entries.filter fun e => !decide (e.1 = place)
  nodup := List.nodup_cons.2 ⟨by simp, tree.nodup_filter _⟩

/-- The tree without a place and all that is under it. -/
def erase (tree : Tree) (place : Place) : Tree where
  cwd := tree.cwd
  entries := tree.entries.filter fun e => !place.isPrefixOf e.1
  nodup := tree.nodup_filter _

/-- The names in the directory at a place and what stands there, in no particular order. -/
def children (tree : Tree) (place : Place) : List (Text × Entry) :=
  tree.entries.filterMap fun (p, entry) =>
    match p.reverse with
    | name :: before => if before.reverse = place then some (name, entry) else none
    | [] => none

/-- The tree with an empty current directory and nothing else. -/
def fresh (cwd : Place) : Tree where
  cwd := cwd
  entries := (List.range cwd.length).map fun n => (cwd.take (n + 1), .directory)
  nodup := by
    rw [List.map_map, List.Nodup, List.pairwise_map]
    refine List.nodup_range.imp_of_mem fun hm hn hne heq => hne ?_
    have := congrArg List.length heq
    simp only [Function.comp_apply, List.length_take, List.mem_range] at this hm hn
    omega

@[simp] theorem get?_set_self (tree : Tree) (place : Place) (entry : Entry) (h : place ≠ []) :
    (tree.set place entry).get? place = some entry := by
  simp [set, get?, h]

/-- Setting one place leaves the others as they are. -/
theorem get?_set_of_ne (tree : Tree) {place other : Place} (entry : Entry) (h : other ≠ place) :
    (tree.set place entry).get? other = tree.get? other := by
  unfold set get?
  split
  · rfl
  · congr 1
    rw [List.find?_cons_of_neg (by simpa using Ne.symm h), List.find?_filter]
    congr 1
    funext e
    by_cases he : e.1 = other <;> simp [he, h]

/-! ## Following paths -/

/-- The place that steps lead to. Every step has to start in a directory. -/
def follow (tree : Tree) : Place → List Component → Except FileError Place
  | place, [] => .ok place
  | place, step :: steps =>
    match tree.get? place with
    | none => .error .notFound
    | some (.file _) | some .sink => .error .notDirectory
    | some .directory =>
      match step with
      | .root => follow tree [] steps
      | .here => follow tree place steps
      | .up => follow tree place.dropLast steps
      | .name name => follow tree (place ++ [name]) steps

/-- The steps of a path with every dot between slashes. -/
def steps (p : Path) : List Component :=
  let inner := p.pieces.filterMap fun piece =>
    if piece = ['.'] then some .here else Component.ofPiece? piece
  if p.isAbsolute then .root :: inner else inner

/-- Whether a path is written with a slash at its end. -/
def endsInSlash (p : Path) : Bool := p.text.getLast? == some '/'

/-- The place that a path leads to, whether or not anything stands there. -/
def locate (tree : Tree) (p : Path) : Except FileError Place :=
  if p.text.isEmpty then .error .notFound else tree.follow tree.cwd (steps p)

/-- What stands where a path leads to. -/
def lookup (tree : Tree) (p : Path) : Except FileError Entry := do
  let place ← tree.locate p
  match tree.get? place with
  | none => .error .notFound
  | some .directory => .ok .directory
  | some entry => if endsInSlash p then .error .notDirectory else .ok entry

/-- Whether a path leads to a directory. -/
def isDirectory (tree : Tree) (p : Path) : Bool :=
  match tree.lookup p with
  | .ok .directory => true
  | _ => false

/-- Whether a path leads to a file. -/
def isFile (tree : Tree) (p : Path) : Bool :=
  match tree.lookup p with
  | .ok (.file _) => true
  | _ => false

/-- The text of the file that a path leads to; a sink has an empty one. -/
def readText (tree : Tree) (p : Path) : Except FileError Text := do
  match ← tree.lookup p with
  | .file (.text t) => return t
  | .file (.binary _) => .error .notText
  | .directory => .error .isDirectory
  | .sink => return []

/-- The path of the current directory. -/
def cwdPath (tree : Tree) : Path := ⟨'/' :: Text.join "/" tree.cwd⟩

/-! ## Changing the tree -/

/-- Whether the last step of a path is a name. -/
def endsInName (p : Path) : Bool :=
  match (steps p).getLast? with
  | some (.name _) => true
  | _ => false

/-- The tree after something is written at a place. A sink stays what it is. -/
def put (tree : Tree) (place : Place) (content : Content) : Tree :=
  if tree.get? place = some .sink then tree else tree.set place (.file content)

/-- Writes a file, in place of one that stands there. -/
def write (tree : Tree) (p : Path) (content : Content) : Except FileError Tree := do
  let place ← tree.locate p
  if endsInSlash p ∨ ¬endsInName p then .error .isDirectory
  else
    match tree.get? place with
    | some .directory => .error .isDirectory
    | _ => return tree.put place content

/-- Creates a directory where nothing stands. -/
def createDirectory (tree : Tree) (p : Path) : Except FileError Tree := do
  let place ← tree.locate p
  if ¬endsInName p then .error .alreadyExists
  else
    match tree.get? place with
    | some _ => .error .alreadyExists
    | none => return tree.set place .directory

/-- Creates the directory of the first path, and before it those of the others as far as they are
missing. What was created before a failure stays. -/
def createAll (tree : Tree) : List Path → Tree × Except FileError Unit
  | [] => (tree, .error .noRoot)
  | p :: parents =>
    if p.text.isEmpty then (tree, .ok ())
    else
      match tree.createDirectory p with
      | .ok tree => (tree, .ok ())
      | .error .notFound =>
        match tree.createAll parents with
        | (tree, .error e) => (tree, .error e)
        | (tree, .ok ()) =>
          match tree.createDirectory p with
          | .ok tree => (tree, .ok ())
          | .error e => if tree.isDirectory p then (tree, .ok ()) else (tree, .error e)
      | .error e => if tree.isDirectory p then (tree, .ok ()) else (tree, .error e)

/-- Creates a directory with all that is missing on the way to it. -/
def createDirectories (tree : Tree) (p : Path) : Tree × Except FileError Unit :=
  tree.createAll p.ancestors

/-- Removes what a path leads to. -/
def remove (tree : Tree) (p : Path) : Except FileError Tree := do
  let _ ← tree.lookup p
  let place ← tree.locate p
  return tree.erase place

end Tree

end TwoWaySql
