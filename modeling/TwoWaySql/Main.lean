import Std.Time
import TwoWaySql.CommandLine.Run

/-!
# The program

The program takes the part of the disk that its arguments speak of as a file tree, runs the
command line on it, and carries out on disk what the run changed in the tree.
-/
namespace TwoWaySql.Program

/-- The path on disk of a place. -/
def diskPath (place : Place) : String := String.ofList ('/' :: Text.join "/" place)

/-- What stands at a place on disk, special files being taken for sinks. Only the content of files
is read that may be asked for. -/
def readEntry (place : Place) (wanted : Bool) : IO (Option Entry) := do
  let root ← IO.FS.realPath "/"
  let path := root / diskPath place
  if ← path.pathExists then
    match (← path.metadata).type with
    | .dir => return some .directory
    | .other => return some .sink
    | _ =>
      let bytes ← if wanted then IO.FS.readBinFile path else pure ByteArray.empty
      return some (.file (Content.ofBytes bytes.toList))
  else return none

/-- The tree with what stands at a place on disk. -/
def observe (tree : Tree) (place : Place) (wanted : Bool) : IO Tree := do
  if place.isEmpty then return tree
  match ← readEntry place wanted with
  | some entry => return tree.set place entry
  | none => return tree

/-- The places that the steps of a path lead through. -/
def placesOf (cwd : Place) (p : Path) : List Place :=
  ((Tree.steps p).foldl
    (fun (places, here) step =>
      let here := match step with
        | .root => []
        | .here => here
        | .up => here.dropLast
        | .name name => here ++ [name]
      (here :: places, here))
    ([cwd], cwd)).1

/-- The tree with all that a path leads through. -/
def observePath (tree : Tree) (p : Path) : IO Tree :=
  (placesOf tree.cwd p).foldlM (fun tree place => observe tree place true) tree

/-- The tree with the entries of a directory, and with the content of its templates. -/
def observeDirectory (tree : Tree) (p : Path) : IO Tree := do
  let tree ← observePath tree p
  if !tree.isDirectory p then return tree
  match tree.locate p with
  | .error _ => return tree
  | .ok place =>
    let root ← IO.FS.realPath "/"
    let names := (← (root / diskPath place).readDir).toList.map (·.fileName.toList)
    names.foldlM (fun tree name => observe tree (place ++ [name]) (Generator.isTemplate name)) tree

/-- The tree with all that options speak of: first what decides about the configuration, then
where the output goes. -/
def observeOptions (tree : Tree) (o : Options) : IO Tree := do
  let tree ← observeDirectory tree o.dir
  let paths := [o.config.getD (o.dir.join Config.fileName)] ++ o.report.toList
  let tree ← paths.foldlM observePath tree
  match CommandLine.loadConfig o tree with
  | .error _ => return tree
  | .ok config => observePath tree (Generator.ofConfig o.dir config).config.outputPath

/-- Carries out on disk what a run changed in a tree. -/
def carryOut (old new : Tree) : IO Unit := do
  let changed := new.entries.filter fun (place, entry) => old.get? place ≠ some entry
  for (place, entry) in changed.mergeSort fun a b => a.1.length ≤ b.1.length do
    match entry with
    | .directory => IO.FS.createDir (diskPath place)
    | .sink => pure ()
    | .file (.text t) => IO.FS.writeFile (diskPath place) (String.ofList t)
    | .file (.binary bytes) => IO.FS.writeBinFile (diskPath place) ⟨bytes.toArray⟩

/-- A number in at least `width` digits. -/
def padded (width n : Nat) : String :=
  let digits := Nat.toDigits 10 n
  String.ofList (List.replicate (width - digits.length) '0' ++ digits)

/-- A part of a second, in as many groups of three digits as it needs. -/
def fraction (nanoseconds : Nat) : String :=
  if nanoseconds = 0 then ""
  else if nanoseconds % 1000000 = 0 then "." ++ padded 3 (nanoseconds / 1000000)
  else if nanoseconds % 1000 = 0 then "." ++ padded 6 (nanoseconds / 1000)
  else "." ++ padded 9 nanoseconds

/-- The present time, in the form that reports carry. -/
def now : IO Text := do
  let now ← Std.Time.Timestamp.now
  let time := Std.Time.DateTime.ofTimestamp now Std.Time.TimeZone.ZoneRules.UTC
  let time := time.toPlainDateTime
  let year := padded 4 time.year.toInt.toNat
  let month := padded 2 time.month.toNat
  let day := padded 2 time.day.toNat
  let hour := padded 2 time.hour.val.toNat
  let minute := padded 2 time.minute.val.toNat
  let second := padded 2 time.second.val.toNat
  let part := fraction time.nanosecond.val.toNat
  return s!"{year}-{month}-{day}T{hour}:{minute}:{second}{part}+00:00".toList

end TwoWaySql.Program

open TwoWaySql in
/-- Runs the command line on the disk. -/
def main (arguments : List String) : IO UInt32 := do
  let arguments := arguments.map String.toList
  let cwd := (Text.splitOn '/' (← IO.currentDir).toString.toList).filter fun name => !name.isEmpty
  let empty := Tree.fresh cwd
  let tree ← match CommandLine.command arguments with
    | .generate o => Program.observeOptions empty o
    | _ => pure empty
  let (outcome, changed) := CommandLine.run arguments (← Program.now) tree
  Program.carryOut tree changed
  (← IO.getStdout).putStr (String.ofList outcome.output)
  (← IO.getStderr).putStr (String.ofList outcome.errors)
  return UInt32.ofNat outcome.exitCode
