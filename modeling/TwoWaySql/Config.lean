import TwoWaySql.FileSystem.Tree
import TwoWaySql.Query.Basic
import TwoWaySql.Toml.Reader

/-!
# Configuration

What a generation can be told: the dialect, where the output goes, and how names are formed. The
file `sqlgen.toml` in the template directory holds it; what it leaves out keeps its usual value.
-/
namespace TwoWaySql

/-- The dialect that queries are run against. -/
inductive Dialect where
  /-- SQLite. -/
  | sqlite
  /-- MySQL and MariaDB. -/
  | mysql
  /-- PostgreSQL. -/
  | postgres
  /-- Any other. -/
  | ansi
deriving DecidableEq, Repr

namespace Dialect

/-- All dialects. -/
def all : List Dialect := [sqlite, mysql, postgres, ansi]

/-- The word for a dialect in a configuration. -/
def word : Dialect → Text
  | sqlite => "sqlite"
  | mysql => "mysql"
  | postgres => "postgres"
  | ansi => "ansi"

/-- The name of a dialect in messages. -/
def title : Dialect → Text
  | sqlite => "Sqlite"
  | mysql => "Mysql"
  | postgres => "Postgres"
  | ansi => "Ansi"

/-- The dialect that a word of a configuration stands for. -/
def ofWord? (word : Text) : Option Dialect := all.find? (·.word = word)

/-- The dialect that a word on the command line stands for, in small letters or capitals. -/
def ofName? (name : Text) : Option Dialect :=
  let name := name.toLower
  if name = "mariadb" then some mysql
  else if name = "postgresql" then some postgres
  else ofWord? name

/-- Whether placeholders carry numbers. -/
def isNumbered (d : Dialect) : Bool := d == postgres

/-- The style of the placeholders. -/
def style (d : Dialect) : PlaceholderStyle := if d.isNumbered then .dollar else .question

end Dialect

/-- What a generation is told. -/
structure Config where
  /-- The dialect that queries are run against. -/
  dialect : Dialect
  /-- The path of the generated file. -/
  output : Path
  /-- What is appended to the name of every record. -/
  structSuffix : Text
  /-- The path that generated code imports the runtime from. -/
  runtime : Text
  /-- Whether directives that are not in the catalog are reported. -/
  warnsUnknown : Bool
  /-- The directory that a relative output path is under. -/
  root : Path
deriving DecidableEq, Repr

/-- Why a configuration cannot be had. -/
inductive ConfigError where
  /-- The file at a path cannot be read. -/
  | unreadable (path : Path) (error : FileError)
  /-- The text is no configuration. -/
  | malformed
deriving DecidableEq, Repr

namespace ConfigError

/-- The wording for people. -/
def message : ConfigError → Text
  | unreadable path e => "IO error: " ++ path.text ++ ": " ++ e.message
  | malformed => "Parse error: not a valid configuration"

end ConfigError

namespace Config

/-- The name of the configuration in a template directory. -/
def fileName : Path := ⟨"sqlgen.toml"⟩

/-- The usual configuration. -/
def usual : Config where
  dialect := .ansi
  output := ⟨"query_elements_gen.rs"⟩
  structSuffix := "QueryElem"
  runtime := "sqlgen_template"
  warnsUnknown := true
  root := .empty

/-- The usual configuration for a directory. -/
def usualFor (dir : Path) : Config := { usual with root := dir }

/-- The path of the generated file. -/
def outputPath (c : Config) : Path := if c.output.isAbsolute then c.output else c.root.join c.output

/-- A string of a configuration. -/
def text? : Toml → Option Text
  | .string t => some t
  | _ => none

/-- A truth value of a configuration. -/
def bool? : Toml → Option Bool
  | .boolean b => some b
  | _ => none

/-- A dialect of a configuration: its word, or the word as the only key of a table with nothing
under it. -/
def dialect? : Toml → Option Dialect
  | .string word => Dialect.ofWord? word
  | .table [(word, .array [])] => Dialect.ofWord? word
  | .table [(word, .table [])] => Dialect.ofWord? word
  | _ => none

/-- The entry under a key, or what stands for a missing one; none if it has the wrong type. -/
def entry {α : Type} (entries : List (Text × Toml)) (key : Text) (read : Toml → Option α)
    (missing : α) : Option α :=
  match entries.find? (·.1 = key) with
  | none => some missing
  | some (_, v) => read v

/-- The configuration of a document. Keys that mean nothing are passed over. -/
def ofEntries? (entries : List (Text × Toml)) : Option Config := do
  let dialect ← entry entries "dialect" dialect? usual.dialect
  let output ← entry entries "output" text? usual.output.text
  let structSuffix ← entry entries "struct_suffix" text? usual.structSuffix
  let runtime ← entry entries "runtime_crate" text? usual.runtime
  let warnsUnknown ← entry entries "warn_unknown_directives" bool? usual.warnsUnknown
  some { dialect, output := ⟨output⟩, structSuffix, runtime, warnsUnknown, root := .empty }

/-- The configuration that a text holds. -/
def ofText (t : Text) : Except ConfigError Config :=
  match (Toml.read? t).bind ofEntries? with
  | some config => .ok config
  | none => .error .malformed

/-- The configuration in a file. Its output path is under the directory of the file. -/
def ofFile (tree : Tree) (path : Path) : Except ConfigError Config :=
  match tree.readText path with
  | .error e => .error (.unreadable path e)
  | .ok t => do
    let config ← ofText t
    return { config with root := path.parent?.getD .empty }

/-- The configuration in a template directory, or the usual one if there is no such file. -/
def ofDirectory (tree : Tree) (dir : Path) : Except ConfigError Config :=
  if tree.isFile (dir.join fileName) then ofFile tree (dir.join fileName)
  else .ok (usualFor dir)

end Config

end TwoWaySql
