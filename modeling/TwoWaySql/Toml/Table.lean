import TwoWaySql.Toml.Basic

/-!
# TOML tables

A table grows by entries under dotted keys and by headers. No key is given twice. A table that
was opened by a header or by dotted keys is not opened again by the other; a table that exists
only because a longer header names it may still be opened once.
-/
namespace TwoWaySql.Toml

/-- How a table came to be. -/
inductive Origin where
  /-- By a header of its own, or as the document. -/
  | header
  /-- By a header of a table inside it. -/
  | implied
  /-- By a dotted key. -/
  | dotted
deriving DecidableEq, Repr

/-- What a key stands for while a document is read. -/
inductive Item where
  /-- A value. -/
  | value (v : Toml)
  /-- A table. -/
  | table (origin : Origin) (entries : List (Text × Item))
  /-- The tables of a header in double brackets. -/
  | tables (all : List (List (Text × Item)))

/-- The entries of a table. -/
abbrev Entries := List (Text × Item)

namespace Entries

/-- The entry under a key. -/
def get? (entries : Entries) (key : Text) : Option Item :=
  (List.find? (·.1 = key) entries).map (·.2)

/-- The entries with another item under a key, in the place of the old one if there is one. -/
def set (entries : Entries) (key : Text) (item : Item) : Entries :=
  match entries with
  | [] => [(key, item)]
  | (k, old) :: rest => if k = key then (k, item) :: rest else (k, old) :: set rest key item

/-- Changes the table that a path leads to; missing tables on the way come to be by `origin`.
A dotted key does not lead into a table that has a header. -/
def update (origin : Origin) (change : Origin → Entries → Option Entries) :
    List Text → Origin → Entries → Option Entries
  | [], here, entries => change here entries
  | key :: path, _, entries =>
    match entries.get? key with
    | none => do
      let inner ← update origin change path origin []
      some (entries.set key (.table origin inner))
    | some (.value _) => none
    | some (.tables all) =>
      match all.reverse with
      | [] => none
      | last :: before => do
        let inner ← update origin change path .header last
        some (entries.set key (.tables (inner :: before).reverse))
    | some (.table there inner) =>
      if origin = .dotted ∧ there = .header then none
      else do
        let inner ← update origin change path there inner
        some (entries.set key (.table there inner))

/-- Adds a value under a key behind a dotted path. The path has to lead to a table of dotted keys,
and a key without a path to any other table. -/
def insert? (path : List Text) (key : Text) (v : Toml) (entries : Entries) : Option Entries :=
  update .dotted
    (fun here entries =>
      if decide (here = .dotted) = path.isEmpty || (entries.get? key).isSome then none
      else some (entries.set key (.value v)))
    path .header entries

/-- A value under a dotted key, the last part of the key apart. -/
abbrev Entry := List Text × Text × Toml

/-- Adds several values in order. -/
def insertAll? (added : List Entry) (entries : Entries) : Option Entries :=
  added.foldlM (fun entries (path, key, v) => entries.insert? path key v) entries

/-- Opens the table of a header and adds its values. -/
def openTable? (path : List Text) (key : Text) (added : List Entry) (entries : Entries) :
    Option Entries :=
  update .implied
    (fun _ entries => do
      let before ← match entries.get? key with
        | none => some []
        | some (.table .implied before) => some before
        | some _ => none
      some (entries.set key (.table .header (← insertAll? added before))))
    path .header entries

/-- Adds a table to those of a header in double brackets, with its values. -/
def appendTable? (path : List Text) (key : Text) (added : List Entry) (entries : Entries) :
    Option Entries :=
  update .implied
    (fun _ entries => do
      let before ← match entries.get? key with
        | none => some []
        | some (.tables before) => some before
        | some _ => none
      some (entries.set key (.tables (before ++ [← insertAll? added []]))))
    path .header entries

end Entries

mutual

/-- The value that an item is in the end. -/
def ofItem : Item → Toml
  | .value v => v
  | .table _ entries => table (ofEntries entries)
  | .tables all => array (ofTables all)

/-- The entries that items are in the end. -/
def ofEntries : List (Text × Item) → List (Text × Toml)
  | [] => []
  | (key, item) :: rest => (key, ofItem item) :: ofEntries rest

/-- The values that tables are in the end. -/
def ofTables : List (List (Text × Item)) → List Toml
  | [] => []
  | entries :: rest => table (ofEntries entries) :: ofTables rest

end

end TwoWaySql.Toml
