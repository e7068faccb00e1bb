import StaticSite.Action
import StaticSite.Api.Client
import StaticSite.Api.Source
import StaticSite.Build
import StaticSite.CommandLine
import StaticSite.Component.Basic
import StaticSite.Component.Reference
import StaticSite.Component.Registry
import StaticSite.Component.Render
import StaticSite.Component.Shipped
import StaticSite.Disk
import StaticSite.Disk.Node
import StaticSite.Expression.Basic
import StaticSite.Expression.Cache
import StaticSite.Expression.Evaluation
import StaticSite.Expression.Parser
import StaticSite.Expression.Program
import StaticSite.Expression.Token
import StaticSite.Fault
import StaticSite.Host
import StaticSite.Journal
import StaticSite.Json.Reader
import StaticSite.Json.Writer
import StaticSite.Main
import StaticSite.Markup.Comment
import StaticSite.Markup.Element
import StaticSite.Markup.Environment
import StaticSite.Markup.Minify
import StaticSite.Markup.Verbatim
import StaticSite.Notice
import StaticSite.Number.Decimal
import StaticSite.Number.Double
import StaticSite.Number.Power
import StaticSite.Number.Reading
import StaticSite.Operation.Argument
import StaticSite.Operation.Arithmetic
import StaticSite.Operation.Attribute
import StaticSite.Operation.Call
import StaticSite.Operation.CollectionMethod
import StaticSite.Operation.FieldFormat
import StaticSite.Operation.Filter
import StaticSite.Operation.Formatting
import StaticSite.Operation.Iteration
import StaticSite.Operation.Member
import StaticSite.Operation.NumberFilter
import StaticSite.Operation.Predicate
import StaticSite.Operation.SequenceFilter
import StaticSite.Operation.TextFilter
import StaticSite.Operation.TextMethod
import StaticSite.Path
import StaticSite.Plugin.Object
import StaticSite.Plugin.Processor
import StaticSite.Plugin.Rule
import StaticSite.Plugin.Shipped
import StaticSite.Plugin.Source
import StaticSite.Proofs.Agreement
import StaticSite.Proofs.Api.Failing
import StaticSite.Proofs.Api.Gathering
import StaticSite.Proofs.Api.Keys
import StaticSite.Proofs.Api.Loading
import StaticSite.Proofs.Api.Serving
import StaticSite.Proofs.Build.Failure
import StaticSite.Proofs.Build.Publication
import StaticSite.Proofs.Build.Staging
import StaticSite.Proofs.Catching
import StaticSite.Proofs.Component.Bases
import StaticSite.Proofs.Component.Dependencies
import StaticSite.Proofs.Component.Discovery
import StaticSite.Proofs.Component.Independence
import StaticSite.Proofs.Component.Inlining
import StaticSite.Proofs.Component.Loads
import StaticSite.Proofs.Component.Matching
import StaticSite.Proofs.Component.Mentions
import StaticSite.Proofs.Component.Opacity
import StaticSite.Proofs.Component.Ordering
import StaticSite.Proofs.Component.Pages
import StaticSite.Proofs.Component.References
import StaticSite.Proofs.Component.Sharing
import StaticSite.Proofs.Component.Spacing
import StaticSite.Proofs.Component.Spoiled
import StaticSite.Proofs.Component.Tracking
import StaticSite.Proofs.Component.Verbatim
import StaticSite.Proofs.Disk.Copying
import StaticSite.Proofs.Disk.Operations
import StaticSite.Proofs.Disk.View
import StaticSite.Proofs.Expression.Caching
import StaticSite.Proofs.Expression.Preparing
import StaticSite.Proofs.Expression.Sessions
import StaticSite.Proofs.Json.Escapes
import StaticSite.Proofs.Json.Front
import StaticSite.Proofs.Json.Locality
import StaticSite.Proofs.Json.Roundtrip
import StaticSite.Proofs.Json.Values
import StaticSite.Proofs.Markup.Comments
import StaticSite.Proofs.Markup.Environment
import StaticSite.Proofs.Markup.Literals
import StaticSite.Proofs.Markup.Matching
import StaticSite.Proofs.Markup.Minifying
import StaticSite.Proofs.Markup.Protecting
import StaticSite.Proofs.Markup.Remainder
import StaticSite.Proofs.Markup.Respacing
import StaticSite.Proofs.Markup.Restoring
import StaticSite.Proofs.Markup.Squeezing
import StaticSite.Proofs.Markup.Tokens
import StaticSite.Proofs.Markup.Words
import StaticSite.Proofs.Number.Digits
import StaticSite.Proofs.Operation.Filters
import StaticSite.Proofs.Operation.Members
import StaticSite.Proofs.Operation.Operators
import StaticSite.Proofs.Operation.Tests
import StaticSite.Proofs.Plugin.Isolation
import StaticSite.Proofs.Script.Literals
import StaticSite.Proofs.Script.Placing
import StaticSite.Proofs.Settings.Deciding
import StaticSite.Proofs.Settings.Missing
import StaticSite.Proofs.Settings.Normal
import StaticSite.Proofs.Template.Balance
import StaticSite.Proofs.Template.Brackets
import StaticSite.Proofs.Template.Conditionals
import StaticSite.Proofs.Template.Elements
import StaticSite.Proofs.Template.Encounters
import StaticSite.Proofs.Template.Matching
import StaticSite.Proofs.Template.Meaning
import StaticSite.Proofs.Template.Paths
import StaticSite.Proofs.Template.Rereading
import StaticSite.Proofs.Template.Splicing
import StaticSite.Proofs.Template.Tokens
import StaticSite.Proofs.Text.Cutting
import StaticSite.Proofs.Text.Lowering
import StaticSite.Proofs.Text.Replacing
import StaticSite.Proofs.Text.Trimming
import StaticSite.Proofs.Value.Faults
import StaticSite.Proofs.Value.Legible
import StaticSite.Proofs.Value.Lookup
import StaticSite.Proofs.Value.Printing
import StaticSite.Reported
import StaticSite.Script
import StaticSite.Settings.Basic
import StaticSite.Settings.Reader
import StaticSite.Template.Conditional
import StaticSite.Template.Engine
import StaticSite.Template.Loop
import StaticSite.Template.Placeholder
import StaticSite.Text.Case
import StaticSite.Text.CaseTable
import StaticSite.Text.Class
import StaticSite.Text.Entity
import StaticSite.Text.Escape
import StaticSite.Text.Margin
import StaticSite.Text.Quoted
import StaticSite.Text.Scanner
import StaticSite.Text.Search
import StaticSite.Text.Split
import StaticSite.Text.Table
import StaticSite.Text.Utf8
import StaticSite.Value.Basic
import StaticSite.Value.Display
import StaticSite.Value.Lines
import StaticSite.Value.Mapping
import StaticSite.Value.Order
import StaticSite.Yaml.Cursor
import StaticSite.Yaml.Reader
import StaticSite.Yaml.Scalar
import StaticSite.Yaml.Timestamp
import StaticSite.Yaml.Token
import StaticSite.Yaml.Tree
import StaticSite.Yaml.Typed
