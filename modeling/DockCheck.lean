import DockCheck.Main
import DockCheck.Proofs.Dockerfile.Segments
import DockCheck.Proofs.Checker.Verdict
import DockCheck.Proofs.Session.Caching
import DockCheck.Proofs.CommandLine.Outcome
import DockCheck.Proofs.Tool.Instructions
import DockCheck.Proofs.Tool.InstallForms
import DockCheck.Proofs.Json.RoundTrip
import DockCheck.Proofs.Json.Values
import DockCheck.Proofs.Report.RoundTrip
import DockCheck.Proofs.Text.Lines
import DockCheck.Proofs.Dockerfile.Roles
import DockCheck.Proofs.Tool.Catalog
import DockCheck.Proofs.CommandLine.Catalogs
import DockCheck.Proofs.Dockerfile.Layout
import DockCheck.Proofs.Checker.Relaxed
import DockCheck.Proofs.Pattern.Alike
import DockCheck.Proofs.Tool.Alike
import DockCheck.Proofs.Checker.Escapes
import DockCheck.Proofs.Faults
import DockCheck.Proofs.Json.Limits
import DockCheck.Proofs.Yaml.Scalars
import DockCheck.Proofs.Standards.Loading
import DockCheck.Proofs.CommandLine.Standards
import DockCheck.Proofs.Checker.Reading
import DockCheck.Proofs.Checker.Separation
import DockCheck.Proofs.CommandLine.Arguments
import DockCheck.Proofs.Schema
import DockCheck.Proofs.Settings
import DockCheck.Proofs.CommandLine.Verbosity
import DockCheck.Proofs.Checker.Policies
import DockCheck.Proofs.CommandLine.Policies
import DockCheck.Proofs.Text.Trim
import DockCheck.Proofs.Version.Normal
import DockCheck.Proofs.Tool.EmptyVersions
import DockCheck.Proofs.Text.Words
import DockCheck.Proofs.Text.LowerCase
import DockCheck.Proofs.Pattern.Lines
import DockCheck.Proofs.Dockerfile.ImageReference
import DockCheck.Proofs.Dockerfile.EscapeChoice
import DockCheck.Proofs.Dockerfile.OneLine
import DockCheck.Proofs.Dockerfile.Growth
import DockCheck.Proofs.Tool.LetterCase
import DockCheck.Proofs.Version.Components
import DockCheck.Proofs.Version.Precisions
import DockCheck.Proofs.Checker.Keys
import DockCheck.Proofs.Pattern.Reading
import DockCheck.Proofs.Pattern.Numbering
import DockCheck.Proofs.Pattern.Groups
import DockCheck.Proofs.Tool.Accepted
import DockCheck.Proofs.Pattern.Excerpts
import DockCheck.Proofs.Tool.Excerpts
import DockCheck.Proofs.Standards.WellFormed
import DockCheck.Proofs.Report.Computed
import DockCheck.Proofs.Report.Plain
import DockCheck.Proofs.Log.SetUp
import DockCheck.Proofs.Tool.GoMentions
