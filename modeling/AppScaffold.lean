import AppScaffold.App.Component
import AppScaffold.App.Project
import AppScaffold.App.Reading
import AppScaffold.Archive.Basic
import AppScaffold.Archive.Checksum
import AppScaffold.Archive.Zip
import AppScaffold.Build.Builder
import AppScaffold.Build.Keystore
import AppScaffold.Build.Package
import AppScaffold.Build.Write
import AppScaffold.Check.FileName
import AppScaffold.Check.Findings
import AppScaffold.Check.Project
import AppScaffold.Check.Semver
import AppScaffold.CommandLine.Invocation
import AppScaffold.CommandLine.Options
import AppScaffold.CommandLine.Run
import AppScaffold.Config.Expand
import AppScaffold.Config.Load
import AppScaffold.Config.Reading
import AppScaffold.Config.Settings
import AppScaffold.Health.Check
import AppScaffold.Health.Report
import AppScaffold.Host.Environment
import AppScaffold.Host.FileTask
import AppScaffold.Host.Files
import AppScaffold.Host.Node
import AppScaffold.Host.Path
import AppScaffold.Host.Process
import AppScaffold.Host.Programs
import AppScaffold.Host.Shell.Arithmetic
import AppScaffold.Host.Shell.Builtin
import AppScaffold.Host.Shell.Command
import AppScaffold.Host.Shell.Glob
import AppScaffold.Host.Shell.Printing
import AppScaffold.Host.Shell.State
import AppScaffold.Host.Shell.Test
import AppScaffold.Host.Shell.Token
import AppScaffold.Host.Shell.Word
import AppScaffold.Host.SystemError
import AppScaffold.Host.Tools
import AppScaffold.Json.Decode
import AppScaffold.Json.Fault
import AppScaffold.Json.Node
import AppScaffold.Json.Print
import AppScaffold.Json.Reader
import AppScaffold.Json.Value
import AppScaffold.Keyed.Basic
import AppScaffold.Main
import AppScaffold.Number.Binary
import AppScaffold.Number.Double
import AppScaffold.Number.Shortest
import AppScaffold.Pattern.Basic
import AppScaffold.Pattern.Reader
import AppScaffold.Render.Component
import AppScaffold.Render.Layout
import AppScaffold.Render.Manifest
import AppScaffold.Render.Project
import AppScaffold.Render.Resources
import AppScaffold.Render.Sources
import AppScaffold.Report.Error
import AppScaffold.Server.Downloads
import AppScaffold.Server.Generation
import AppScaffold.Server.Routes
import AppScaffold.Server.Service
import AppScaffold.Server.Uploads
import AppScaffold.Telemetry.Histogram
import AppScaffold.Telemetry.Logging
import AppScaffold.Telemetry.Registry
import AppScaffold.Terminal.Amount
import AppScaffold.Terminal.Console
import AppScaffold.Text.Alphanumeric
import AppScaffold.Text.Printable
import AppScaffold.Text.Quoted
import AppScaffold.Text.Space
import AppScaffold.Text.Split
import AppScaffold.Text.Utf8
import AppScaffold.Toml.Document
import AppScaffold.Toml.Statement
import AppScaffold.Toml.Value
import AppScaffold.Web.ByteRange
import AppScaffold.Web.Date
import AppScaffold.Web.FileType
import AppScaffold.Web.FileType.Application
import AppScaffold.Web.FileType.Basic
import AppScaffold.Web.FileType.Media
import AppScaffold.Web.FileType.Text
import AppScaffold.Web.FileType.Vendor
import AppScaffold.Web.Form
import AppScaffold.Web.MediaType
import AppScaffold.Web.Message
import AppScaffold.Web.Percent
import AppScaffold.Web.StaticFiles
import AppScaffold.Web.Target
import AppScaffold.Xml.Escape
import AppScaffold.Xml.Markup
import AppScaffold.Proofs.Xml.Reader
import AppScaffold.Proofs.Layout.Mirror
import AppScaffold.Proofs.Text.Occurrence
import AppScaffold.Proofs.Layout.Nesting
import AppScaffold.Proofs.Keyed.Lookup
import AppScaffold.Proofs.Pattern.Language
import AppScaffold.Proofs.Pattern.Word
import AppScaffold.Proofs.Check.Acceptance
import AppScaffold.Proofs.Host.Path
import AppScaffold.Proofs.Render.Layouts
import AppScaffold.Proofs.Render.Paths
import AppScaffold.Proofs.Build.Generated
import AppScaffold.Proofs.CommandLine.Render
import AppScaffold.Proofs.Check.Warnings
import AppScaffold.Proofs.Check.Form
import AppScaffold.Proofs.Xml.Comment
import AppScaffold.Proofs.Layout.Unknown
import AppScaffold.Proofs.Build.Failures
import AppScaffold.Proofs.Render.Distinct
import AppScaffold.Proofs.Check.Classes
import AppScaffold.Proofs.Host.Tree
import AppScaffold.Proofs.Host.Resolve
import AppScaffold.Proofs.Host.Change
import AppScaffold.Proofs.Host.Directory
import AppScaffold.Proofs.Host.Walk
import AppScaffold.Proofs.Host.Listing
import AppScaffold.Proofs.Host.Parent
import AppScaffold.Proofs.Host.Success
import AppScaffold.Proofs.Host.Clear
import AppScaffold.Proofs.Build.Writing
import AppScaffold.Proofs.Build.Packing
import AppScaffold.Proofs.Build.Documents
import AppScaffold.Proofs.Build.Success
import AppScaffold.Proofs.Build.Contents
import AppScaffold.Proofs.Build.SourceDownload
import AppScaffold.Proofs.Render.Places
import AppScaffold.Proofs.Render.Manifest
import AppScaffold.Proofs.Render.Sources
import AppScaffold.Proofs.Render.References
import AppScaffold.Proofs.Build.Clear
import AppScaffold.Proofs.Build.Package
import AppScaffold.Proofs.Check.FileName
import AppScaffold.Proofs.Server.Token
import AppScaffold.Proofs.Server.Uploads
import AppScaffold.Proofs.Server.Building
import AppScaffold.Proofs.Server.Keystores
import AppScaffold.Proofs.Server.Interleaving
import AppScaffold.Proofs.Layout.AttributeNames
import AppScaffold.Proofs.Telemetry.Threads
import AppScaffold.Proofs.Except
import AppScaffold.Proofs.Json.Form
import AppScaffold.Proofs.Json.Reading
import AppScaffold.Proofs.Json.Strict
import AppScaffold.Proofs.Json.Agreement
import AppScaffold.Proofs.Json.Record
import AppScaffold.Proofs.App.Reading
import AppScaffold.Proofs.Server.ProjectText
import AppScaffold.Proofs.Telemetry.Counters
import AppScaffold.Proofs.Server.BuildCounts
import AppScaffold.Proofs.Xml.ResourceText
import AppScaffold.Proofs.Xml.Texts
import AppScaffold.Proofs.Render.Strings
import AppScaffold.Proofs.Groovy.Literal
import AppScaffold.Proofs.Render.Version
import AppScaffold.Proofs.Java.Escapes
import AppScaffold.Proofs.Java.Comments
import AppScaffold.Proofs.Render.DocComments
import AppScaffold.Proofs.Telemetry.Samples
import AppScaffold.Proofs.Xml.Processor
import AppScaffold.Proofs.Xml.AttributeValues
import AppScaffold.Proofs.Json.Fields
import AppScaffold.Proofs.App.Scalars
import AppScaffold.Proofs.App.Navigation
import AppScaffold.Proofs.App.Conversion
import AppScaffold.Proofs.App.Spelling
import AppScaffold.Proofs.App.Unused
import AppScaffold.Proofs.Number.Rounding
import AppScaffold.Proofs.Telemetry.Percentiles
import AppScaffold.Proofs.Text.Split
import AppScaffold.Proofs.Build.KeyTool
import AppScaffold.Proofs.Host.Landing
import AppScaffold.Proofs.Build.Tree
import AppScaffold.Proofs.Server.Children
import AppScaffold.Proofs.Web.Disposition
import AppScaffold.Proofs.Server.Attachment
import AppScaffold.Proofs.Toml.Integers
import AppScaffold.Proofs.Toml.Assignment
import AppScaffold.Proofs.Server.Limits
import AppScaffold.Proofs.Render.ClassNames
import AppScaffold.Proofs.Host.OneFile
import AppScaffold.Proofs.Server.SourceArchives
import AppScaffold.Proofs.App.DownloadName
import AppScaffold.Proofs.Number.Decimal
import AppScaffold.Proofs.Terminal.Amount
import AppScaffold.Proofs.Report.RoundTrip
import AppScaffold.Proofs.Json.Depth
import AppScaffold.Proofs.App.Depth
