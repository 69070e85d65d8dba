import SchemaMigration.Text.Lines
import SchemaMigration.Text.Printable
import SchemaMigration.Text.Numeral
import SchemaMigration.Text.Percent
import SchemaMigration.Text.Case
import SchemaMigration.Version.Comparison
import SchemaMigration.Script
import SchemaMigration.FileTree
import SchemaMigration.Vendor
import SchemaMigration.Number.Decimal
import SchemaMigration.Sql.Table
import SchemaMigration.Sql.Statement
import SchemaMigration.Sql.Execute
import SchemaMigration.Failure
import SchemaMigration.Upgrade
import SchemaMigration.Reporting
import SchemaMigration.Connection
import SchemaMigration.Rehearsal
import SchemaMigration.CommandLine.Run
import SchemaMigration.Main
import SchemaMigration.Proofs.Except
import SchemaMigration.Proofs.Path
import SchemaMigration.Proofs.FileTree
import SchemaMigration.Proofs.Text.Trimming
import SchemaMigration.Proofs.Text.Lines
import SchemaMigration.Proofs.Text.Utf8
import SchemaMigration.Proofs.Script.Segments
import SchemaMigration.Proofs.JobLogic
import SchemaMigration.Proofs.JobFaults
import SchemaMigration.Proofs.Sql.ColumnUpdate
import SchemaMigration.Proofs.InstalledVersion.Reading
import SchemaMigration.Proofs.Version.Order
import SchemaMigration.Proofs.Version.Text
import SchemaMigration.Proofs.InstalledVersion.Writing
import SchemaMigration.Proofs.InstalledVersion.ReadBack
import SchemaMigration.Proofs.InstalledVersion.Overwriting
import SchemaMigration.Proofs.ScriptRun
import SchemaMigration.Proofs.InstalledVersion.Faults
import SchemaMigration.Proofs.Upgrade.Step
import SchemaMigration.Proofs.FolderSize
import SchemaMigration.Proofs.Release
import SchemaMigration.Proofs.Upgrade.Latest
import SchemaMigration.Proofs.FolderSize.Locality
import SchemaMigration.Proofs.InstalledVersion.Agreement
import SchemaMigration.Proofs.Upgrade.Stored
import SchemaMigration.Proofs.Sql.Statements
import SchemaMigration.Proofs.Upgrade.FixedPoint
import SchemaMigration.Proofs.Upgrade.Bootstrap
import SchemaMigration.Proofs.Upgrade.Resuming
import SchemaMigration.Proofs.Upgrade.Extension
import SchemaMigration.Proofs.Upgrade.Calls
import SchemaMigration.Proofs.Upgrade.Written
import SchemaMigration.Proofs.Upgrade.Initialization
import SchemaMigration.Proofs.Upgrade.Accidents
import SchemaMigration.Proofs.CommandLine.Ending
import SchemaMigration.Proofs.JobPairs
import SchemaMigration.Proofs.JobTraces
import SchemaMigration.Proofs.Overlooking
import SchemaMigration.Proofs.InstalledVersion.Atomicity
import SchemaMigration.Proofs.InstalledVersion.Beside
import SchemaMigration.Proofs.Upgrade.Beside
import SchemaMigration.Proofs.Upgrade.Isolation
import SchemaMigration.Proofs.ScriptRun.Ending
import SchemaMigration.Proofs.Script.Substance
import SchemaMigration.Proofs.Script.Concatenation
import SchemaMigration.Proofs.Script.Rendering
import SchemaMigration.Proofs.Script.Terminators
import SchemaMigration.Proofs.Version.Grammar
import SchemaMigration.Proofs.Version.Comparison
import SchemaMigration.Proofs.Release.Listing
import SchemaMigration.Proofs.Sql.RowUpdate
import SchemaMigration.Proofs.FolderSize.Sizes
import SchemaMigration.Proofs.FolderSize.Sums
import SchemaMigration.Proofs.Sql.Repeated
import SchemaMigration.Proofs.Sql.FreeColumn
import SchemaMigration.Proofs.FolderSize.Independence
import SchemaMigration.Proofs.FolderSize.Tree
import SchemaMigration.Proofs.FolderSize.Consistency
import SchemaMigration.Proofs.DatabaseUrl.Masking
import SchemaMigration.Proofs.Upgrade.Classification
