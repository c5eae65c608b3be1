import TypedResources.Call.Basic
import TypedResources.ClassFile.Basic
import TypedResources.Locate
import TypedResources.Report
import TypedResources.Settings
import TypedResources.CommandLine.Basic
import TypedResources.Main
import TypedResources.Proofs.ClassFile.Accessors
import TypedResources.Proofs.Query
import TypedResources.Proofs.Migration.Targets
import TypedResources.Proofs.Migration.Calls
import TypedResources.Proofs.Migration.Revision
import TypedResources.Proofs.Migration.Lookup
import TypedResources.Proofs.Action
import TypedResources.Proofs.Disk.Growth
import TypedResources.Proofs.Migration.Migrating
import TypedResources.Proofs.BuildFile.Module
import TypedResources.Proofs.Locate
import TypedResources.Proofs.Migration.Run
import TypedResources.Proofs.Migration.Rerun
import TypedResources.Sorting
import TypedResources.Proofs.Number.Numeral
import TypedResources.Proofs.Text.Utf8
import TypedResources.Proofs.Disk.Writes
import TypedResources.Proofs.Json
import TypedResources.Proofs.Disk.Edits
import TypedResources.Proofs.Cache
import TypedResources.Proofs.Generate.Run
import TypedResources.Proofs.Generate.Freshness
import TypedResources.Proofs.Migration.Frame
import TypedResources.Proofs.Text.Case
import TypedResources.Proofs.Naming
import TypedResources.Proofs.Naming.Collision
import TypedResources.Proofs.Pattern.Reads
import TypedResources.Proofs.Text.Brackets
import TypedResources.Proofs.Call.Parts
import TypedResources.Proofs.Migration.Table
import TypedResources.Proofs.Migration.Resolution
import TypedResources.Proofs.Migration.Qualified
import TypedResources.Proofs.Call.Overlap
import TypedResources.Proofs.Migration.Edits
import TypedResources.Proofs.Migration.Swaps
import TypedResources.Proofs.Migration.Mentions
import TypedResources.Proofs.Migration.Skipped
import TypedResources.Proofs.Migration.Replay
import TypedResources.Proofs.ClassFile.Blocks
import TypedResources.Proofs.Generate.Rejection
import TypedResources.Proofs.Disk.Spares
import TypedResources.Proofs.Cache.Loading
import TypedResources.Proofs.Generate.Completeness
import TypedResources.Proofs.ClassFile.Leniency
import TypedResources.Proofs.Text.Depth
import TypedResources.Proofs.Pattern.Found
import TypedResources.Proofs.Call.Stretches
import TypedResources.Proofs.Call.Layout
import TypedResources.Proofs.Failing
import TypedResources.Proofs.CommandLine.Failures
import TypedResources.Proofs.CommandLine.Containment
import TypedResources.Proofs.Generate.Package
import TypedResources.Proofs.Text.Lines
import TypedResources.Proofs.Migration.AddedLine
import TypedResources.Proofs.Migration.Once
import TypedResources.Proofs.Migration.AddedImport
import TypedResources.Proofs.BuildFile.Comment
import TypedResources.Proofs.BuildFile.Reading
import TypedResources.Proofs.Call.Argument
import TypedResources.Proofs.Pattern.Alternatives
import TypedResources.Proofs.BuildFile.Declaration
import TypedResources.Proofs.BuildFile.Dependencies
import TypedResources.Proofs.BuildFile.Resolution
import TypedResources.Proofs.Repetition
import TypedResources.Proofs.Plural
import TypedResources.Proofs.ClassFile.Relisting
import TypedResources.Proofs.ClassFile.Refusal
import TypedResources.Proofs.Redeclaration
import TypedResources.Proofs.Naming.Identifier
import TypedResources.Proofs.Cache.UpToDate
import TypedResources.Proofs.Generate.Served
import TypedResources.Proofs.Json.Faults
import TypedResources.Proofs.Generate.Corruption
import TypedResources.Proofs.Report
import TypedResources.Proofs.Disk.Listing
import TypedResources.Proofs.Disk.Walk
import TypedResources.Proofs.Definition
import TypedResources.Proofs.Definition.Placeholder
import TypedResources.Proofs.Disk.Refiling
import TypedResources.Proofs.BuildFile.Sources
import TypedResources.Proofs.Locate.Contribution
import TypedResources.Proofs.Locate.Discovery
import TypedResources.Proofs.Yaml.Scanning
import TypedResources.Proofs.Yaml.Building
import TypedResources.Proofs.Settings.Loading
