import TwoWaySql.CommandLine.Options
import TwoWaySql.Generation.Basic
import TwoWaySql.Report.Json
import TwoWaySql.Report.Screen

/-!
# The command line

A run turns arguments and a file tree into what is printed, an exit code and the tree after it.
It ends with 0 if no error was found, with 1 if one was or the run broke off, and with 2 if the
arguments are wrong.
-/
namespace TwoWaySql

/-- What a run leaves behind besides the file tree. -/
structure Outcome where
  /-- The exit code. -/
  exitCode : Nat
  /-- What is printed as the result. -/
  output : Text
  /-- What is printed about progress and failure. -/
  errors : Text
deriving DecidableEq, Repr

/-- Why a run breaks off. -/
inductive RunError where
  /-- The template directory is none. -/
  | notDirectory (dir : Path)
  /-- The configuration, looked for at a path, cannot be had. -/
  | config (path : Path) (error : ConfigError)
  /-- The output cannot be compared. -/
  | compare (error : GenerationError)
  /-- The output cannot be written. -/
  | write (output : Path) (error : GenerationError)
  /-- The report cannot be stored. -/
  | report (path : Path) (error : FileError)
deriving DecidableEq, Repr

namespace RunError

/-- The wording for people, with that of the causes behind it. -/
def message : RunError → Text
  | notDirectory dir => dir.text ++ " is not a directory"
  | config path e => "Failed to load config from " ++ path.text ++ ": " ++ e.message
  | compare e => e.chain
  | write output e => "Failed to write " ++ output.text ++ ": " ++ e.chain
  | report path e => "Failed to write report to " ++ path.text ++ ": " ++ e.message

end RunError

namespace CommandLine

/-- The finding that the output is not what is generated. -/
def outOfDate (output : Path) : Diagnostic where
  code := .outputOutOfDate
  severity := .error
  message := output.text ++ " is out of date; run sqlgen without --check"
  location := some (.inFile output.text)
  comparison := .untold

/-- The configuration of a run: that of the file, with what the options replace. -/
def loadConfig (o : Options) (tree : Tree) : Except RunError Config := do
  let config ← match o.config with
    | some path => (Config.ofFile tree path).mapError (RunError.config path)
    | none => (Config.ofDirectory tree o.dir).mapError (RunError.config o.dir)
  return { config with
    output := o.output.getD config.output, dialect := o.dialect.getD config.dialect }

/-- What a step of a run leaves behind: the tree, the lines about progress, and the result. -/
structure Stage (α : Type) where
  /-- The tree after the step. -/
  tree : Tree
  /-- The lines about progress so far. -/
  progress : List Text
  /-- The result, unless the run breaks off. -/
  result : Except RunError α

/-- Compares the output with what is generated. -/
def compareOutput (g : Generation) (tree : Tree) : Stage Report :=
  match g.isUpToDate tree with
  | .error e => ⟨tree, [], .error (.compare e)⟩
  | .ok true => ⟨tree, ["Up to date: " ++ g.output.text], .ok g.report⟩
  | .ok false => ⟨tree, [], .ok (g.report.addDiagnostic (outOfDate g.output))⟩

/-- Writes what is generated. -/
def writeOutput (g : Generation) (tree : Tree) : Stage Report :=
  match g.write tree with
  | (tree, .error e) => ⟨tree, [], .error (.write g.output e)⟩
  | (tree, .ok ()) => ⟨tree, ["Wrote " ++ g.output.text], .ok g.report⟩

/-- Generates, and writes or compares the output. A generation that fails is reported. -/
def generate (o : Options) (config : Config) (tree : Tree) : Stage Report :=
  match (Generator.ofConfig o.dir config).generate tree with
  | .error e => ⟨tree, [], .ok (Report.ofDiagnostics [e.toDiagnostic])⟩
  | .ok g => if o.check then compareOutput g tree else writeOutput g tree

/-- Stores the report where one is wanted. -/
def storeReport (o : Options) (timestamp : Text) (tree : Tree) (r : Report) : Stage Report :=
  match o.report with
  | none => ⟨tree, [], .ok r⟩
  | some path =>
    match tree.write path (.text (r.stored timestamp)) with
    | .error e => ⟨tree, [], .error (.report path e)⟩
    | .ok tree => ⟨tree, ["Report written to " ++ path.text], .ok r⟩

/-- One step of a run after another. -/
def Stage.andThen {α β : Type} (s : Stage α) (next : Tree → α → Stage β) : Stage β :=
  match s.result with
  | .error e => ⟨s.tree, s.progress, .error e⟩
  | .ok a =>
    let t := next s.tree a
    ⟨t.tree, s.progress ++ t.progress, t.result⟩

/-- A generation with its options: configuration, output and report in turn. -/
def stages (o : Options) (timestamp : Text) (tree : Tree) : Stage Report :=
  if tree.isDirectory o.dir then
    match loadConfig o tree with
    | .error e => ⟨tree, [], .error e⟩
    | .ok config =>
      let dialect : Stage Unit := ⟨tree, ["Using dialect: " ++ config.dialect.title], .ok ()⟩
      (dialect.andThen fun tree _ => generate o config tree).andThen (storeReport o timestamp)
  else ⟨tree, [], .error (.notDirectory o.dir)⟩

/-- What is printed of a generation, and how it ends. -/
def conclude (o : Options) (s : Stage Report) : Outcome :=
  let progress := if o.verbose then Text.lines s.progress else []
  match s.result with
  | .error e => ⟨1, [], progress ++ Text.lines ["error: " ++ e.message]⟩
  | .ok r => ⟨if r.hasErrors then 1 else 0, r.shown, progress⟩

/-- The help text. -/
def helpText : Text := Text.lines [
  "sqlgen - generate Rust query records from two-way SQL templates", [],
  "Usage: sqlgen [OPTIONS] <DIR>", [],
  "Arguments:",
  "  <DIR>  Directory containing .sql templates", [],
  "Options:",
  "  -c, --config <CONFIG>    Path to config file (default: <DIR>/sqlgen.toml)",
  "  -o, --output <OUTPUT>    Generated file, relative to <DIR>",
  "  -d, --dialect <DIALECT>  Target dialect: sqlite, mysql, postgres or ansi",
  "      --check              Do not write; fail if the generated file is missing or stale",
  "      --report <REPORT>    Write a JSON report to this path",
  "  -v, --verbose            Enable verbose output",
  "  -h, --help               Print help",
  "  -V, --version            Print version"]

/-- The version text. -/
def versionText : Text := "sqlgen 0.1.0\n"

/-- A run of the command line at a time. -/
def run (arguments : List Text) (timestamp : Text) (tree : Tree) : Outcome × Tree :=
  match command arguments with
  | .refused => (⟨2, [], []⟩, tree)
  | .help => (⟨0, helpText, []⟩, tree)
  | .version => (⟨0, versionText, []⟩, tree)
  | .generate o =>
    let s := stages o timestamp tree
    (conclude o s, s.tree)

end CommandLine

end TwoWaySql
