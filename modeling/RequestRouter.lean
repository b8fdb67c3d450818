import RequestRouter.CommandLine.Argument
import RequestRouter.CommandLine.Basic
import RequestRouter.CommandLine.Help
import RequestRouter.CommandLine.Probe
import RequestRouter.CommandLine.Run
import RequestRouter.Decimal.Reading
import RequestRouter.Decimal.Shortest
import RequestRouter.Decimal.Text
import RequestRouter.Demo
import RequestRouter.Exchange.Act
import RequestRouter.Exchange.Basic
import RequestRouter.Exchange.Report
import RequestRouter.Http.Cookie
import RequestRouter.Http.Header
import RequestRouter.Http.Query
import RequestRouter.Http.Token
import RequestRouter.Http.Uri
import RequestRouter.Json.Basic
import RequestRouter.Json.Fault
import RequestRouter.Json.Mismatch
import RequestRouter.Json.NumberReader
import RequestRouter.Json.Parser
import RequestRouter.Json.Printer
import RequestRouter.Json.StringReader
import RequestRouter.Main
import RequestRouter.Pattern.Basic
import RequestRouter.Pattern.Expression
import RequestRouter.Pattern.Match
import RequestRouter.Pattern.Suffix
import RequestRouter.Pattern.Token
import RequestRouter.Record.Basic
import RequestRouter.Record.Conversion
import RequestRouter.Record.Error
import RequestRouter.Record.Kind
import RequestRouter.Record.Schema
import RequestRouter.Request.Basic
import RequestRouter.Request.Id
import RequestRouter.Response.Basic
import RequestRouter.Router.Basic
import RequestRouter.Settings.Basic
import RequestRouter.Settings.File
import RequestRouter.Settings.Logging
import RequestRouter.Table.Basic
import RequestRouter.Table.Join
import RequestRouter.Table.Order
import RequestRouter.Text.Blank
import RequestRouter.Text.Hidden
import RequestRouter.Text.Quoted
import RequestRouter.Text.Split
import RequestRouter.Text.Utf8
import RequestRouter.Toml.Document
import RequestRouter.Toml.Quoted
import RequestRouter.Toml.Tree
import RequestRouter.Toml.Value
import RequestRouter.Tree.Basic
import RequestRouter.Tree.Endpoint
import RequestRouter.Tree.Error
import RequestRouter.Tree.Layer
import RequestRouter.Tree.Scope
import RequestRouter.Proofs.Table.Lookup
import RequestRouter.Proofs.Table.Distinct
import RequestRouter.Proofs.Except
import RequestRouter.Proofs.Pattern.Compile
import RequestRouter.Proofs.Pattern.Greedy
import RequestRouter.Proofs.Exchange.Course
import RequestRouter.Proofs.Exchange.Meters
import RequestRouter.Proofs.Router.OneResponse
import RequestRouter.Proofs.Tree.Leaf
import RequestRouter.Proofs.Tree.Selection
import RequestRouter.Proofs.Router.FirstLeaf
import RequestRouter.Proofs.Record.Conversion
import RequestRouter.Proofs.Tree.Requirements
import RequestRouter.Proofs.Tree.Declaration
import RequestRouter.Proofs.Router.Requirements
import RequestRouter.Proofs.Tree.FaultBoundary
import RequestRouter.Proofs.Router.Containment
import RequestRouter.Proofs.Pattern.Concatenation
import RequestRouter.Proofs.Exchange.Alike
import RequestRouter.Proofs.Tree.Insertion
import RequestRouter.Proofs.Tree.Transparency
import RequestRouter.Proofs.Router.Transparency
import RequestRouter.Proofs.Tree.Flattening
import RequestRouter.Proofs.Pattern.Grammar
import RequestRouter.Proofs.Exchange.Copies
import RequestRouter.Proofs.Tree.Sites
import RequestRouter.Proofs.Router.Build
import RequestRouter.Proofs.Tree.Arrival
import RequestRouter.Proofs.Router.Shown
import RequestRouter.Proofs.Router.Gate
import RequestRouter.Proofs.Tree.CapturedText
import RequestRouter.Proofs.Router.RefusingSink
import RequestRouter.Proofs.Tree.Unguarded
import RequestRouter.Proofs.Tree.Unmatched
import RequestRouter.Proofs.Router.Unmatched
import RequestRouter.Proofs.Text.ByteOrder
import RequestRouter.Proofs.Table.Algebra
import RequestRouter.Proofs.Record.Algebra
import RequestRouter.Proofs.Table.Stored
import RequestRouter.Proofs.Record.OnePass
import RequestRouter.Proofs.Record.Accounts
import RequestRouter.Proofs.Record.Recipe
import RequestRouter.Proofs.Decimal.Finite
import RequestRouter.Proofs.Record.Fitting
import RequestRouter.Proofs.Tree.Calls
import RequestRouter.Proofs.Router.Metering
import RequestRouter.Proofs.Tree.Settling
import RequestRouter.Proofs.Pattern.Paths
import RequestRouter.Proofs.Tree.BodyParser
import RequestRouter.Proofs.Tree.Views
import RequestRouter.Proofs.Router.Responses
import RequestRouter.Proofs.Demo.Pages
import RequestRouter.Proofs.Demo.Answers
import RequestRouter.Proofs.Pattern.Substitution
import RequestRouter.Proofs.Tree.BodyDecision
import RequestRouter.Proofs.Tree.Undeclared
import RequestRouter.Proofs.Router.Undeclared
import RequestRouter.Proofs.Decimal.Numeral
import RequestRouter.Proofs.Settings.Override
import RequestRouter.Proofs.Table.Collected
import RequestRouter.Proofs.Record.Construction
import RequestRouter.Proofs.Request.Path
import RequestRouter.Proofs.Request.Steps
import RequestRouter.Proofs.Response.Headers
import RequestRouter.Proofs.Text.Parts
import RequestRouter.Proofs.Http.Cookies
import RequestRouter.Proofs.Request.Id
import RequestRouter.Proofs.Router.Identity
import RequestRouter.Proofs.Tree.RunErrors
import RequestRouter.Proofs.Router.Phases
import RequestRouter.Proofs.Decimal.Signed
import RequestRouter.Proofs.Record.IntegerText
import RequestRouter.Proofs.Pattern.Decoding
import RequestRouter.Proofs.Table.Arrangement
import RequestRouter.Proofs.Table.SizeHint
import RequestRouter.Proofs.Settings.Size
