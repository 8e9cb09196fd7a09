import Refit.Json.Reader
import Refit.Main
import Refit.Project.Report
import Refit.Proofs.Disk.Confinement
import Refit.Proofs.Rebuild.KeptContent
import Refit.Proofs.Source.ExportRoundTrip
import Refit.Proofs.Source.Path
import Refit.Rebuild.Registry
import Refit.Service
import Refit.Proofs.Rebuild.Confinement
import Refit.Proofs.Rebuild.Failing
import Refit.Proofs.Session.Looks
import Refit.Proofs.Import.Failing
import Refit.Proofs.Plan.Formed
import Refit.Proofs.Rebuild.Turns
import Refit.Proofs.Rebuild.Accounting
import Refit.Proofs.Datum.Numbers
import Refit.Proofs.Datum.Documents
import Refit.Proofs.Rebuild.Tools
import Refit.Proofs.Session.Stops
import Refit.Proofs.Source.Naming
import Refit.Proofs.Plan.Typed
import Refit.Proofs.Plan.Shown
import Refit.Proofs.Rebuild.Sources
import Refit.Proofs.Rebuild.Setup
import Refit.Proofs.Rebuild.Clean
import Refit.Proofs.Plan.Stored
import Refit.Proofs.Project.Nested
import Refit.Proofs.Service.Answers
import Refit.Proofs.Rebuild.Alike
import Refit.Proofs.Disk.Storing
import Refit.Proofs.Cli.Talks
import Refit.Proofs.Text.Groups
import Refit.Proofs.Cli.Requests
import Refit.Proofs.Cli.Staged
import Refit.Proofs.Disk.Mirrored
import Refit.Proofs.Text.Searching
import Refit.Proofs.Project.UiClasses
import Refit.Proofs.Text.Words
import Refit.Proofs.Project.TypeNames
import Refit.Proofs.Project.Declared
import Refit.Proofs.Project.Layout
import Refit.Proofs.Import.Clones
import Refit.Proofs.Cli.Pipelines
import Refit.Proofs.Project.Reordered
import Refit.Proofs.Plan.Unrepeated
import Refit.Proofs.Rebuild.Bookkeeping
import Refit.Proofs.Config.Layers
import Refit.Proofs.Config.Variables
import Refit.Proofs.Toml.Tables
import Refit.Proofs.Config.Resolving
import Refit.Proofs.Config.Unusable
import Refit.Proofs.Project.Parameters
import Refit.Proofs.Project.Routes
import Refit.Proofs.Text.Utf8
import Refit.Proofs.Cli.Routes
import Refit.Proofs.Project.Extracted
import Refit.Proofs.Rebuild.Planned
import Refit.Proofs.Cli.Modes
import Refit.Proofs.Import.Verbatim
import Refit.Proofs.Source.Relocation
import Refit.Proofs.Source.Truncation
import Refit.Proofs.Project.Lenient
import Refit.Proofs.Project.Themed
import Refit.Proofs.Plan.Columns
import Refit.Proofs.Rebuild.Classes
import Refit.Proofs.Rebuild.Seed
import Refit.Proofs.Config.Assignments
import Refit.Proofs.Config.Setting
import Refit.Proofs.Project.Classified
import Refit.Proofs.Project.Trees
