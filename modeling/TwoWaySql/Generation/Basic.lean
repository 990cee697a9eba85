import TwoWaySql.Config
import TwoWaySql.Dummy.Strip
import TwoWaySql.Record.Source
import TwoWaySql.Report.Basic

/-!
# Generation

The templates of a directory are the files directly in it whose extension is `sql`. They are
taken in the order of their names; each gives a record, and all records together the generated
file. One template that fails makes the generation fail.
-/
namespace TwoWaySql

/-- Whether a text comes before another or is the same, by code points from the left. -/
def Text.precedes : Text → Text → Bool
  | [], _ => true
  | _ :: _, [] => false
  | a :: as, b :: bs => a < b || (a == b && Text.precedes as bs)

/-- Why nothing is generated. -/
inductive GenerationError where
  /-- A file at a path cannot be read or written. -/
  | file (path : Path) (error : FileError)
  /-- The directory at a path cannot be listed. -/
  | listing (path : Path) (error : FileError)
  /-- A template has no record. -/
  | record (error : RecordError)
  /-- Two templates have one record name. -/
  | duplicate (name first second : Text)
deriving DecidableEq, Repr

namespace GenerationError

/-- The wording for people. -/
def message : GenerationError → Text
  | file path e => "I/O error on " ++ path.text ++ ": " ++ e.message
  | listing path e =>
    "Failed to list templates: IO error for operation on " ++ path.text ++ ": " ++ e.message
  | record e => e.message
  | duplicate name first second =>
    second ++ ": record `" ++ name ++ "` is already generated from " ++ first

/-- The wording with that of the causes behind it. -/
def chain : GenerationError → Text
  | e@(file _ cause) => e.message ++ ": " ++ cause.message
  | e => e.message

/-- The error as a finding. -/
def toDiagnostic : GenerationError → Diagnostic
  | e@(file path _) => ⟨.ioError, .error, e.message, some (.inFile path.text), .untold⟩
  | e@(listing ..) => ⟨.ioError, .error, e.message, none, .untold⟩
  | record e => e.toDiagnostic
  | e@(duplicate _ _ second) =>
    ⟨.recordDuplicateName, .error, e.message, some (.inFile second), .untold⟩

end GenerationError

/-- What a directory generates, before it is written. -/
structure Generation where
  /-- Where the generated file goes. -/
  output : Path
  /-- The generated source. -/
  source : Text
  /-- The templates that were read. -/
  templates : List Path
  /-- The records, in the order of the templates. -/
  records : List Record
  /-- The findings that are no errors. -/
  diagnostics : List Diagnostic
deriving DecidableEq, Repr

/-- A template directory with its configuration. -/
structure Generator where
  /-- The directory. -/
  dir : Path
  /-- The configuration, its output path under the directory. -/
  config : Config
deriving DecidableEq, Repr

namespace Generator

/-- A directory with the usual configuration. -/
def usual (dir : Path) : Generator := ⟨dir, .usualFor dir⟩

/-- A directory with a configuration. -/
def ofConfig (dir : Path) (config : Config) : Generator := ⟨dir, { config with root := dir }⟩

/-- Whether the extension of a file name is `sql`, in small letters or capitals. -/
def isTemplate (name : Text) : Bool :=
  match FileName.extension? name with
  | some extension => decide (extension.toLower = "sql")
  | none => false

/-- The files among entries that are templates, in the order of their names. -/
def templatesAmong (children : List (Text × Entry)) : List (Text × Content) :=
  (children.filterMap fun (name, entry) =>
    match entry with
    | .file content => if isTemplate name then some (name, content) else none
    | .directory | .sink => none).mergeSort fun a b => Text.precedes a.1 b.1

/-- The names and contents of the templates. What is no directory holds none. -/
def templates (g : Generator) (tree : Tree) : Except GenerationError (List (Text × Content)) :=
  match tree.lookup g.dir with
  | .error e => .error (.listing g.dir e)
  | .ok (.file _) | .ok .sink => .ok []
  | .ok .directory =>
    match tree.locate g.dir with
    | .error e => .error (.listing g.dir e)
    | .ok place => .ok (templatesAmong (tree.children place))

/-- The path of a template. -/
def templatePath (g : Generator) (name : Text) : Path := g.dir.join ⟨name⟩

/-- The paths of the templates. -/
def discover (g : Generator) (tree : Tree) : Except GenerationError (List Path) := do
  let templates ← g.templates tree
  return templates.map fun (name, _) => g.templatePath name

/-- The record of one template and the findings in it. -/
def ofTemplate (g : Generator) (name : Text) (content : Content) :
    Except GenerationError (Record × List Diagnostic) :=
  match content with
  | .binary _ => .error (.file (g.templatePath name) .notText)
  | .text source =>
    match Record.ofTemplate name (FileName.stem name) source g.config.structSuffix with
    | .error e => .error (.record e)
    | .ok (record, unknown) =>
      let unknown := if g.config.warnsUnknown then unknown else []
      .ok (record, unknown.map (·.toDiagnostic name) ++
        (unstripped source).map (·.toDiagnostic name))

/-- The records and findings after one more template. -/
def add (g : Generator) (sofar : List Record × List Diagnostic) (template : Text × Content) :
    Except GenerationError (List Record × List Diagnostic) := do
  let (record, found) ← g.ofTemplate template.1 template.2
  match sofar.1.find? (·.name = record.name) with
  | some first => .error (.duplicate record.name first.templateFile template.1)
  | none => return (sofar.1 ++ [record], sofar.2 ++ found)

/-- How the generated file refers to what is around it. -/
def sourceOptions (g : Generator) (cwd : Path) : SourceOptions where
  runtime := g.config.runtime
  style := g.config.dialect.style
  templatePath := Path.templatePrefix cwd g.dir g.config.outputPath

/-- What the directory generates. -/
def generate (g : Generator) (tree : Tree) : Except GenerationError Generation := do
  let templates ← g.templates tree
  let (records, diagnostics) ← templates.foldlM g.add ([], [])
  return {
    output := g.config.outputPath
    source := Source.ofRecords (g.sourceOptions tree.cwdPath) records
    templates := templates.map fun (name, _) => g.templatePath name
    records
    diagnostics }

end Generator

namespace Generation

/-- Creates the directory of the generated file with all that is missing on the way to it. -/
def prepare (g : Generation) (tree : Tree) : Tree × Except GenerationError Unit :=
  match g.output.parent? with
  | none => (tree, .ok ())
  | some parent =>
    match tree.createDirectories parent with
    | (tree, .ok ()) => (tree, .ok ())
    | (tree, .error e) => (tree, .error (.file parent e))

/-- Writes the generated file, and before it the directories it needs. -/
def write (g : Generation) (tree : Tree) : Tree × Except GenerationError Unit :=
  match g.prepare tree with
  | (tree, .error e) => (tree, .error e)
  | (tree, .ok ()) =>
    match tree.write g.output (.text g.source) with
    | .ok tree => (tree, .ok ())
    | .error e => (tree, .error (.file g.output e))

/-- Whether the generated file stands there as it would be written. -/
def isUpToDate (g : Generation) (tree : Tree) : Except GenerationError Bool :=
  match tree.readText g.output with
  | .ok t => .ok (t = g.source)
  | .error .notFound => .ok false
  | .error e => .error (.file g.output e)

/-- The generation as a report. -/
def report (g : Generation) : Report :=
  g.records.foldl
    (fun report r => report.addRecord ⟨r.name, r.templateFile, r.fieldSummaries⟩)
    ((Report.ofDiagnostics g.diagnostics).setTemplates g.templates.length)

end Generation

namespace Generator

/-- Generates and writes the file. -/
def run (g : Generator) (tree : Tree) : Tree × Except GenerationError Generation :=
  match g.generate tree with
  | .error e => (tree, .error e)
  | .ok generation =>
    match generation.write tree with
    | (tree, .ok ()) => (tree, .ok generation)
    | (tree, .error e) => (tree, .error e)

end Generator

end TwoWaySql
