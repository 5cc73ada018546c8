import RestModel.CommandLine.Arguments
import RestModel.CommandLine.Report
import RestModel.CommandLine.Run
import RestModel.CommandLine.Session
import RestModel.CommandLine.Settings
import RestModel.Configuration.Basic
import RestModel.Configuration.Reader
import RestModel.Directive.Basic
import RestModel.Directive.Payload
import RestModel.Directive.Reader
import RestModel.Directive.Registry
import RestModel.Directive.Wait
import RestModel.Document.Basic
import RestModel.Document.Reader
import RestModel.Document.WrittenSchema
import RestModel.Failure
import RestModel.Files.Basic
import RestModel.Files.Tree
import RestModel.Generation.Basic
import RestModel.Generation.ClientModel
import RestModel.Generation.Listing
import RestModel.Json.Basic
import RestModel.Json.Reader
import RestModel.Json.Writer
import RestModel.Keyed
import RestModel.Lint.Basic
import RestModel.Lint.Directives
import RestModel.Log.Filter
import RestModel.Log.Settings
import RestModel.Main
import RestModel.Model.Build
import RestModel.Model.Component
import RestModel.Model.TypeRef
import RestModel.Naming
import RestModel.Operation
import RestModel.Path
import RestModel.Policy.Basic
import RestModel.Policy.Reader
import RestModel.Proofs.Build.Absence
import RestModel.Proofs.Build.Aliases
import RestModel.Proofs.Build.Calls
import RestModel.Proofs.Build.Compositions
import RestModel.Proofs.Build.Entries
import RestModel.Proofs.Build.Growth
import RestModel.Proofs.Build.Halting
import RestModel.Proofs.Build.Introductions
import RestModel.Proofs.Build.Lawful
import RestModel.Proofs.Build.Laws
import RestModel.Proofs.Build.Listings
import RestModel.Proofs.Build.Mentions
import RestModel.Proofs.Build.Nesting
import RestModel.Proofs.Build.Omissions
import RestModel.Proofs.Build.Origins
import RestModel.Proofs.Build.Places
import RestModel.Proofs.Build.Plain
import RestModel.Proofs.Build.Problems
import RestModel.Proofs.Build.References
import RestModel.Proofs.Build.Solid
import RestModel.Proofs.Build.Steps
import RestModel.Proofs.Build.TypeNames
import RestModel.Proofs.Component
import RestModel.Proofs.Directive.Grammar
import RestModel.Proofs.Directive.Lookup
import RestModel.Proofs.Directive.Patterns
import RestModel.Proofs.Directive.Payloads
import RestModel.Proofs.Directive.Registration
import RestModel.Proofs.Directive.Search
import RestModel.Proofs.Distinct
import RestModel.Proofs.Document.Preference
import RestModel.Proofs.FreshNames
import RestModel.Proofs.Generation.Accounts
import RestModel.Proofs.Generation.Agreement
import RestModel.Proofs.Generation.Checked
import RestModel.Proofs.Generation.Clashes
import RestModel.Proofs.Generation.Endpoints
import RestModel.Proofs.Generation.Failures
import RestModel.Proofs.Generation.Lawful
import RestModel.Proofs.Generation.Links
import RestModel.Proofs.Generation.Names
import RestModel.Proofs.Generation.References
import RestModel.Proofs.Generation.Requests
import RestModel.Proofs.Generation.Rows
import RestModel.Proofs.Generation.Runs
import RestModel.Proofs.Generation.Shapes
import RestModel.Proofs.Generation.Sharing
import RestModel.Proofs.Generation.Sources
import RestModel.Proofs.Generation.Withdrawal
import RestModel.Proofs.Identifiers
import RestModel.Proofs.Json
import RestModel.Proofs.Keyed
import RestModel.Proofs.Keys
import RestModel.Proofs.Lint.Kinds
import RestModel.Proofs.Lint.Payloads
import RestModel.Proofs.Lint.Rejection
import RestModel.Proofs.Naming
import RestModel.Proofs.Outcome
import RestModel.Proofs.Outside
import RestModel.Proofs.Resolution.Depth
import RestModel.Proofs.Resolution.Flattening
import RestModel.Proofs.Resolution.Locality
import RestModel.Proofs.Resolution.Resolver
import RestModel.Proofs.Resolution.Unfolding
import RestModel.Proofs.Resolution.WellFormed
import RestModel.Proofs.Resolution.Wrapping
import RestModel.Proofs.Resource.BasePaths
import RestModel.Proofs.Resource.Interleaving
import RestModel.Proofs.Resource.Merging
import RestModel.Proofs.Resource.Methods
import RestModel.Proofs.Resource.Omission
import RestModel.Proofs.Resource.Provenance
import RestModel.Proofs.Resource.Types
import RestModel.Proofs.Schema
import RestModel.Proofs.Sorting
import RestModel.Proofs.Source.Handles
import RestModel.Proofs.Support.Accounts
import RestModel.Proofs.Support.Agreement
import RestModel.Proofs.Support.Cascade
import RestModel.Proofs.Support.Check
import RestModel.Proofs.Support.Methods
import RestModel.Proofs.Support.Paths
import RestModel.Proofs.Support.Standards
import RestModel.Proofs.Support.Without
import RestModel.Proofs.Text
import RestModel.Resource.Declaration
import RestModel.Resource.Declared
import RestModel.Resource.Descriptor
import RestModel.Resource.Fact
import RestModel.Resource.Inventory
import RestModel.Resource.Listing
import RestModel.Resource.Wiring
import RestModel.Schema.Basic
import RestModel.Schema.Resolution
import RestModel.Schema.Shape
import RestModel.Source.Code
import RestModel.Source.Facts
import RestModel.Source.Grammar.Basic
import RestModel.Source.Grammar.Expression
import RestModel.Source.Grammar.Item
import RestModel.Source.Grammar.Pattern
import RestModel.Source.Grammar.Signature
import RestModel.Source.Grammar.Statement
import RestModel.Source.Grammar.Type
import RestModel.Source.Literal
import RestModel.Source.Parser
import RestModel.Source.Reader
import RestModel.Source.Token
import RestModel.Support.Basic
import RestModel.Support.Check
import RestModel.Support.Issue
import RestModel.Text.Blank
import RestModel.Text.Case
import RestModel.Text.CaseTable
import RestModel.Text.Digits
import RestModel.Text.Pieces
import RestModel.Text.PrintTable
import RestModel.Text.Quoted
import RestModel.Text.Word
import RestModel.Text.WordTable
import RestModel.Toml.Reader
import RestModel.Toml.Value
import RestModel.Verb
import RestModel.Yaml.Cursor
import RestModel.Yaml.Node
import RestModel.Yaml.Scalar
import RestModel.Yaml.Token
import RestModel.Yaml.Value
