import RequestSuite.Collection.Basic
import RequestSuite.Collection.Reader
import RequestSuite.Collection.Visit
import RequestSuite.CommandLine.Arguments
import RequestSuite.CommandLine.Command
import RequestSuite.CommandLine.Help
import RequestSuite.CommandLine.Run
import RequestSuite.CommandLine.Table
import RequestSuite.Config
import RequestSuite.Conversion.Input
import RequestSuite.Conversion.Job
import RequestSuite.Conversion.Outcome
import RequestSuite.Conversion.Report
import RequestSuite.Decimal.Binary64
import RequestSuite.Decimal.Literal
import RequestSuite.Decimal.Number
import RequestSuite.Decimal.Shortest
import RequestSuite.Failure
import RequestSuite.Files.Change
import RequestSuite.Files.Path
import RequestSuite.Files.Workspace
import RequestSuite.Json.Printer
import RequestSuite.Json.Reading
import RequestSuite.Json.Record
import RequestSuite.Json.Token
import RequestSuite.Json.Tree
import RequestSuite.Json.Value
import RequestSuite.Main
import RequestSuite.NameMap
import RequestSuite.Request.Resolved
import RequestSuite.Script.Assertion
import RequestSuite.Script.Cache
import RequestSuite.Script.Prelude
import RequestSuite.Script.Setter
import RequestSuite.Script.TestMarker
import RequestSuite.Script.TestScript
import RequestSuite.Session
import RequestSuite.Suite.LoadPlan
import RequestSuite.Suite.SpecFile
import RequestSuite.Suite.Target
import RequestSuite.Template.Hole
import RequestSuite.Template.PathParameter
import RequestSuite.Template.PlanReference
import RequestSuite.Template.QueryHole
import RequestSuite.Template.ShellReference
import RequestSuite.Text.Blank
import RequestSuite.Text.Digest
import RequestSuite.Text.Digit
import RequestSuite.Text.Lines
import RequestSuite.Text.Markup
import RequestSuite.Text.Quoted
import RequestSuite.Text.Scan
import RequestSuite.Text.Stem
import RequestSuite.Text.Units
import RequestSuite.Text.UpperCase
import RequestSuite.Text.Width
import RequestSuite.Toml.Document
import RequestSuite.Toml.Scalar
import RequestSuite.Url.Address
import RequestSuite.Url.Authority
import RequestSuite.Url.CaseFolding
import RequestSuite.Url.Composition
import RequestSuite.Url.Domain
import RequestSuite.Url.Punycode
import RequestSuite.Variable.Archive
import RequestSuite.Variable.Store
import RequestSuite.Variable.Value
import RequestSuite.Proofs.NameMap
import RequestSuite.Proofs.Script.Assigned
import RequestSuite.Proofs.Session.Process
import RequestSuite.Proofs.Session.History
import RequestSuite.Proofs.Collection.Nodes
import RequestSuite.Proofs.Conversion.Walk
import RequestSuite.Proofs.Script.Reading
import RequestSuite.Proofs.Script.Blocks
import RequestSuite.Proofs.Script.CodeLines
import RequestSuite.Proofs.Text.Tags
import RequestSuite.Proofs.Suite.PlanAssertions
import RequestSuite.Proofs.Session.Rerun
import RequestSuite.Proofs.Collection.Outline
import RequestSuite.Proofs.Collection.Positions
import RequestSuite.Proofs.Conversion.Layout
import RequestSuite.Proofs.Conversion.TwoRuns
import RequestSuite.Proofs.Conversion.Translations
import RequestSuite.Proofs.Suite.PlanShape
import RequestSuite.Proofs.Conversion.Failing
import RequestSuite.Proofs.Json.Numbers
import RequestSuite.Proofs.Json.Strings
import RequestSuite.Proofs.Json.Printing
import RequestSuite.Proofs.Json.Values
import RequestSuite.Proofs.Variable.RoundTrip
import RequestSuite.Proofs.Script.SetterCalls
import RequestSuite.Proofs.Script.LineEnds
import RequestSuite.Proofs.Script.ArrowBlocks
import RequestSuite.Proofs.Json.Members
import RequestSuite.Proofs.Suite.CallOptions
import RequestSuite.Proofs.Suite.PlanArguments
import RequestSuite.Proofs.Suite.FormFields
import RequestSuite.Proofs.Conversion.KeptVariables
import RequestSuite.Proofs.Text.Bytes
import RequestSuite.Proofs.Script.SetterScan
import RequestSuite.Proofs.Text.Padding
import RequestSuite.Proofs.Script.PaddedLines
import RequestSuite.Proofs.Script.LineAccount
import RequestSuite.Proofs.Script.BraceBlocks
import RequestSuite.Proofs.Template.Holes
import RequestSuite.Proofs.Template.Refilling
import RequestSuite.Proofs.Template.Hidden
import RequestSuite.Proofs.Template.PlanReferences
import RequestSuite.Proofs.Fallible
import RequestSuite.Proofs.Request.PathParameters
import RequestSuite.Proofs.Template.BehindPath
import RequestSuite.Proofs.Request.QueryStage
import RequestSuite.Proofs.Decimal.KeptSpellings
import RequestSuite.Proofs.Variable.Coercion
import RequestSuite.Proofs.Json.NumberForms
import RequestSuite.Proofs.Request.Headers
import RequestSuite.Proofs.Suite.SentHeaders
import RequestSuite.Proofs.Script.Idioms
import RequestSuite.Proofs.Script.JoinedPreludes
import RequestSuite.Proofs.Json.Spacing
import RequestSuite.Proofs.Suite.OptionTokens
import RequestSuite.Proofs.Text.Literals
import RequestSuite.Proofs.Suite.SpecLiterals
import RequestSuite.Proofs.Text.Entities
import RequestSuite.Proofs.Json.Readable
import RequestSuite.Proofs.Template.PrintedValues
import RequestSuite.Proofs.Suite.StructuredBodies
import RequestSuite.Proofs.Url.Authorities
import RequestSuite.Proofs.Url.Names
import RequestSuite.Proofs.Url.Addresses
import RequestSuite.Proofs.Url.Hosts
import RequestSuite.Proofs.Url.Splitting
import RequestSuite.Proofs.Url.KeptHosts
import RequestSuite.Proofs.Url.Assembling
import RequestSuite.Proofs.Text.StemRuns
import RequestSuite.Proofs.Text.EscapedData
import RequestSuite.Proofs.Text.NameOrder
import RequestSuite.Proofs.Conversion.FileOrder
