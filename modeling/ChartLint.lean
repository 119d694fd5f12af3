import ChartLint.Check.Lint
import ChartLint.Config.OfJson
import ChartLint.Config.OfToml
import ChartLint.Config.Written
import ChartLint.Proofs.Source.Union
import ChartLint.Proofs.Diagnostic.Text
import ChartLint.Proofs.Chart.Traversal
import ChartLint.Proofs.Chart.Equivalence
import ChartLint.Proofs.Check.Depth
import ChartLint.Proofs.Check.Locality
import ChartLint.Proofs.Check.Log
import ChartLint.Proofs.Check.Places
import ChartLint.Proofs.Check.Relocation
import ChartLint.Proofs.Check.Validity
import ChartLint.Proofs.Check.Limit
import ChartLint.Proofs.Check.Suppression
import ChartLint.Proofs.Check.ArcCodes
import ChartLint.Proofs.Check.Accounting
import ChartLint.Proofs.Report.Outcome
import ChartLint.Proofs.Report.Grouping
import ChartLint.Proofs.Config.Members
import ChartLint.Proofs.Config.Json
import ChartLint.Proofs.Config.CodeNames
import ChartLint.Proofs.Toml.Scalars
import ChartLint.Proofs.Toml.Lines
import ChartLint.Proofs.Toml.Table
import ChartLint.Proofs.Toml.Document
import ChartLint.Proofs.Config.Written
import ChartLint.Proofs.Config.Document
