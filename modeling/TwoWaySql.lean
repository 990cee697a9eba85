import TwoWaySql.Main
import TwoWaySql.Query.Element
import TwoWaySql.Json.Reader
import TwoWaySql.Record.Source
import TwoWaySql.Report.Json
import TwoWaySql.Value.Json
import TwoWaySql.Proofs.Outcome
import TwoWaySql.Proofs.Query.Placeholder
import TwoWaySql.Proofs.Query.Fault
import TwoWaySql.Proofs.Query.Pass
import TwoWaySql.Proofs.Directive.Layout
import TwoWaySql.Proofs.Dummy.Strip
import TwoWaySql.Proofs.Dummy.Preservation
import TwoWaySql.Proofs.Dummy.Shape
import TwoWaySql.Proofs.Dummy.Insertion
import TwoWaySql.Proofs.Query.Reads
import TwoWaySql.Proofs.Record.Fields
import TwoWaySql.Proofs.Record.Instance
import TwoWaySql.Proofs.Directive.Writing
import TwoWaySql.Proofs.Query.Relocation
import TwoWaySql.Proofs.Query.Place
import TwoWaySql.Proofs.Text.Order
import TwoWaySql.Proofs.FileSystem.Tree
import TwoWaySql.Proofs.Generation.Templates
import TwoWaySql.Proofs.Generation.Records
import TwoWaySql.Proofs.Text.Pieces
import TwoWaySql.Proofs.Record.Naming
import TwoWaySql.Proofs.Generation.Names
import TwoWaySql.Proofs.Query.Unknown
import TwoWaySql.Proofs.FileSystem.Parent
import TwoWaySql.Proofs.Generation.Output
import TwoWaySql.Proofs.CommandLine.Check
import TwoWaySql.Proofs.Directive.Scan
import TwoWaySql.Proofs.FileSystem.Normal
import TwoWaySql.Proofs.FileSystem.Relative
import TwoWaySql.Proofs.FileSystem.Change
import TwoWaySql.Proofs.CommandLine.Stages
import TwoWaySql.Proofs.CommandLine.Effects
import TwoWaySql.Proofs.Config
import TwoWaySql.Proofs.Generation.Inputs
import TwoWaySql.Proofs.CommandLine.Stability
import TwoWaySql.Proofs.Directive.Token
import TwoWaySql.Proofs.Directive.Run
import TwoWaySql.Proofs.Dummy.Idempotence
import TwoWaySql.Proofs.Query.WellFormed
import TwoWaySql.Proofs.Text.Quoted
import TwoWaySql.Proofs.Record.Source
import TwoWaySql.Proofs.Generation.Stale
import TwoWaySql.Proofs.Offsets.Slice
import TwoWaySql.Proofs.Offsets.Scan
import TwoWaySql.Proofs.Offsets.Strip
import TwoWaySql.Proofs.Offsets.Tree
import TwoWaySql.Proofs.Offsets.Query
import TwoWaySql.Proofs.Dummy.Reading
import TwoWaySql.Proofs.Dummy.Report
import TwoWaySql.Proofs.Dummy.Whole
import TwoWaySql.Proofs.Query.Repetition
import TwoWaySql.Proofs.Query.Live
import TwoWaySql.Proofs.Directive.Joining
import TwoWaySql.Proofs.Query.Bound
import TwoWaySql.Proofs.Query.Composition
import TwoWaySql.Proofs.Record.Gathering
import TwoWaySql.Proofs.Binary64.Rounding
import TwoWaySql.Proofs.Value.Literal
import TwoWaySql.Proofs.Json.Lexical
import TwoWaySql.Proofs.Json.Nesting
import TwoWaySql.Proofs.Json.Writing
import TwoWaySql.Proofs.Value.Json
import TwoWaySql.Proofs.Generation.Counts
import TwoWaySql.Proofs.Record.Snake
import TwoWaySql.Proofs.Offsets.Lines
