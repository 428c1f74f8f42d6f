import Tabular.Main
import Tabular.Run
import Tabular.Settings.Yaml
import Tabular.Settings.Json
import Tabular.Catalog
import Tabular.Builder.Load
import Tabular.Yaml.Value
import Tabular.Yaml.Node
import Tabular.Yaml.Token
import Tabular.Yaml.Scalar
import Tabular.CommandLine.Parse
import Tabular.Sink
import Tabular.Dataset
import Tabular.Failure
import Tabular.Builder
import Tabular.Clause
import Tabular.Dataset.Reference
import Tabular.Number.Binary64
import Tabular.Text.Quoted
import Tabular.Text.Utf8
import Tabular.Unicode.Width
import Tabular.Format
import Tabular.Proofs.Builder.Run
import Tabular.Proofs.Clause.Occurrence
import Tabular.Proofs.Operator.Place
import Tabular.Proofs.Condition.Reading
import Tabular.Proofs.Draft.Acceptance
import Tabular.Proofs.Builder.Edits
import Tabular.Proofs.Builder.Load
import Tabular.Proofs.Csv.Records
import Tabular.Proofs.Csv.Sheet
import Tabular.Proofs.Files.System
import Tabular.Proofs.Sink
import Tabular.Proofs.Settings.Json
import Tabular.Proofs.View.JsonLines
import Tabular.Proofs.View.Select
import Tabular.Proofs.Run.Exports
import Tabular.Proofs.Offset.Filter
import Tabular.Proofs.Condition.Position
import Tabular.Proofs.Draft.Value
import Tabular.Proofs.Draft.Spelling
import Tabular.Proofs.Operator.Opposite
import Tabular.Proofs.Operator.Matching
import Tabular.Proofs.Draft.Items
import Tabular.Proofs.Builder.InPlace
import Tabular.Proofs.Draft.Blocks
import Tabular.Proofs.Csv.Columns
import Tabular.Proofs.Run.Formats
import Tabular.Proofs.Clause.Padding
import Tabular.Proofs.Text.Scanner
import Tabular.Proofs.Number.Value
import Tabular.Proofs.Clause.Leftmost
