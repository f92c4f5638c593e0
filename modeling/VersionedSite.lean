import VersionedSite.Build
import VersionedSite.Calendar.Clock
import VersionedSite.Calendar.Moment
import VersionedSite.Calendar.Pattern
import VersionedSite.CommandLine.Invocation
import VersionedSite.CommandLine.Options
import VersionedSite.CommandLine.Reach
import VersionedSite.CommandLine.Run
import VersionedSite.Decimal.Numeral
import VersionedSite.Decimal.Shortest
import VersionedSite.Discovery
import VersionedSite.FileTree
import VersionedSite.Json
import VersionedSite.Liquid.Filter
import VersionedSite.Liquid.Filtering
import VersionedSite.Liquid.Filtering.Number
import VersionedSite.Liquid.Filtering.Sequence
import VersionedSite.Liquid.Filtering.Text
import VersionedSite.Liquid.Library
import VersionedSite.Liquid.Markup
import VersionedSite.Liquid.Reading
import VersionedSite.Liquid.Rendering
import VersionedSite.Liquid.Template
import VersionedSite.Liquid.Value
import VersionedSite.Log
import VersionedSite.Main
import VersionedSite.Page.Composition
import VersionedSite.Page.Home
import VersionedSite.Page.Rendering
import VersionedSite.Page.Sources
import VersionedSite.Page.Templates
import VersionedSite.Proofs.CommandLine.Checking
import VersionedSite.Proofs.Liquid.Plain
import VersionedSite.Proofs.Liquid.Timeless
import VersionedSite.Proofs.Liquid.Twin
import VersionedSite.Proofs.Liquid.Written
import VersionedSite.Proofs.Page.Canonical
import VersionedSite.Proofs.Page.Commands
import VersionedSite.Proofs.Page.Composed
import VersionedSite.Proofs.Page.Copyright
import VersionedSite.Proofs.Page.Links
import VersionedSite.Proofs.Page.Markup
import VersionedSite.Proofs.Page.Parallel
import VersionedSite.Proofs.Page.Rendered
import VersionedSite.Proofs.Page.Searching
import VersionedSite.Proofs.Page.Sources
import VersionedSite.Proofs.Page.Switcher
import VersionedSite.Proofs.Site.Auditing
import VersionedSite.Proofs.Site.Building
import VersionedSite.Proofs.Site.Characters
import VersionedSite.Proofs.Site.CurrentVersion
import VersionedSite.Proofs.Site.Discovered
import VersionedSite.Proofs.Site.Display
import VersionedSite.Proofs.Site.DocsAddress
import VersionedSite.Proofs.Site.Grammar
import VersionedSite.Proofs.Site.Joining
import VersionedSite.Proofs.Site.Layering
import VersionedSite.Proofs.Site.Lookup
import VersionedSite.Proofs.Site.ManifestUrl
import VersionedSite.Proofs.Site.Overrides
import VersionedSite.Proofs.Site.Requests
import VersionedSite.Proofs.Site.Resolved
import VersionedSite.Proofs.Site.RootRequests
import VersionedSite.Proofs.Site.Rules
import VersionedSite.Proofs.Site.Schema
import VersionedSite.Proofs.Site.Segments
import VersionedSite.Proofs.Site.Substitution
import VersionedSite.Proofs.Site.Trial
import VersionedSite.Proofs.Site.Versions
import VersionedSite.Proofs.Steps
import VersionedSite.Proofs.Text.Affix
import VersionedSite.Proofs.Text.ByteOrder
import VersionedSite.Proofs.Text.Escape
import VersionedSite.Proofs.Text.NameMap
import VersionedSite.Proofs.Text.Wording
import VersionedSite.Proofs.Tree.Names
import VersionedSite.Proofs.Tree.Paths
import VersionedSite.Proofs.Tree.Touching
import VersionedSite.Proofs.Tree.Walking
import VersionedSite.Proofs.Yaml.Chosen
import VersionedSite.Proofs.Yaml.Ending
import VersionedSite.Proofs.Yaml.Keys
import VersionedSite.Report
import VersionedSite.Site.Catalog
import VersionedSite.Site.Config
import VersionedSite.Site.Content
import VersionedSite.Site.Features
import VersionedSite.Site.Install
import VersionedSite.Site.Manifest
import VersionedSite.Site.Navigation
import VersionedSite.Site.Path
import VersionedSite.Site.Printing
import VersionedSite.Site.Reading
import VersionedSite.Site.Resolve
import VersionedSite.Site.Url
import VersionedSite.Site.Version
import VersionedSite.Sorting.Merge
import VersionedSite.Sorting.Runs
import VersionedSite.Sorting.Stable
import VersionedSite.Text.Blank
import VersionedSite.Text.Case
import VersionedSite.Text.Cluster
import VersionedSite.Text.CodeRange
import VersionedSite.Text.Html
import VersionedSite.Text.NameMap
import VersionedSite.Text.Percent
import VersionedSite.Text.Quoted
import VersionedSite.Text.Search
import VersionedSite.Text.Visible
import VersionedSite.Value
import VersionedSite.Yaml.Choice
import VersionedSite.Yaml.Cursor
import VersionedSite.Yaml.Datum
import VersionedSite.Yaml.Event
import VersionedSite.Yaml.Fault
import VersionedSite.Yaml.Node
import VersionedSite.Yaml.Printer
import VersionedSite.Yaml.Reader
import VersionedSite.Yaml.Scalar
import VersionedSite.Yaml.Tag
import VersionedSite.Yaml.Token
