import Courier.Authentication
import Courier.CommandLine.Arguments
import Courier.CommandLine.Files
import Courier.CommandLine.Run
import Courier.Document
import Courier.Document.Path
import Courier.Engine
import Courier.Error
import Courier.Exchange.ContentEncoding
import Courier.Exchange.ContentType
import Courier.Exchange.Inflate
import Courier.Exchange.Location
import Courier.Exchange.Message
import Courier.Exchange.Outgoing
import Courier.Exchange.Send
import Courier.Exchange.Target
import Courier.Formula
import Courier.Json.Reader
import Courier.Json.Writer
import Courier.Language.Access
import Courier.Language.Assignment
import Courier.Language.Call
import Courier.Language.Check
import Courier.Language.Comparison
import Courier.Language.Constant
import Courier.Language.Evaluation
import Courier.Language.Execution
import Courier.Language.Expression
import Courier.Language.Fault
import Courier.Language.Filter
import Courier.Language.Filter.Argument
import Courier.Language.Filter.Html
import Courier.Language.Filter.Items
import Courier.Language.Filter.Layout
import Courier.Language.Filter.Number
import Courier.Language.Filter.Text
import Courier.Language.Grammar
import Courier.Language.Grammar.Statements
import Courier.Language.Iteration
import Courier.Language.JsonForm
import Courier.Language.Listing
import Courier.Language.Member
import Courier.Language.Memory
import Courier.Language.Method
import Courier.Language.Method.Argument
import Courier.Language.Method.Bytes
import Courier.Language.Method.Items
import Courier.Language.Method.Map
import Courier.Language.Method.Number
import Courier.Language.Method.Text
import Courier.Language.Operation
import Courier.Language.Output
import Courier.Language.Parts
import Courier.Language.Pattern
import Courier.Language.Placeholder
import Courier.Language.Placeholder.Filling
import Courier.Language.Placeholder.Layout
import Courier.Language.Pretty
import Courier.Language.Procedure
import Courier.Language.Run
import Courier.Language.Scope
import Courier.Language.Shown
import Courier.Language.Signature
import Courier.Language.Sorting
import Courier.Language.Statement
import Courier.Language.Token
import Courier.Language.Token.Reader
import Courier.Language.Value
import Courier.Mapping
import Courier.Model
import Courier.Model.Fields
import Courier.Number.Arithmetic
import Courier.Number.Binary64
import Courier.Number.Layout
import Courier.Number.Reading
import Courier.Number.Shortest
import Courier.Request.Build
import Courier.Response.Content
import Courier.Response.Output
import Courier.Schema
import Courier.Settings
import Courier.Settings.Assignments
import Courier.Step
import Courier.Template.Cache
import Courier.Template.Render
import Courier.Template.Tag
import Courier.Text.BigFiveTables
import Courier.Text.Case
import Courier.Text.CaseTables
import Courier.Text.Charset
import Courier.Text.CharsetTables
import Courier.Text.Encoded
import Courier.Text.Encoding
import Courier.Text.Escaped
import Courier.Text.HangulTables
import Courier.Text.HanziTables
import Courier.Text.HostName
import Courier.Text.Html
import Courier.Text.KanjiTables
import Courier.Text.LabelTables
import Courier.Text.LetterTables
import Courier.Text.Link
import Courier.Text.NameTables
import Courier.Text.Named
import Courier.Text.Normal
import Courier.Text.NormalTables
import Courier.Text.Percent
import Courier.Text.Property
import Courier.Text.Punycode
import Courier.Text.Quoted
import Courier.Text.ReferenceTables
import Courier.Text.Search
import Courier.Text.Shape
import Courier.Text.Shifted
import Courier.Text.Steps
import Courier.Text.Surrogate
import Courier.Text.Tables
import Courier.Text.Wide
import Courier.Text.Wrap
import Courier.Url.Address
import Courier.Url.Parts
import Courier.Main
import Courier.Proofs.Language.Outcome
import Courier.Proofs.Text.Escapes
import Courier.Proofs.Language.Tokens
import Courier.Proofs.Template.Fragment
import Courier.Proofs.Language.Parsing
import Courier.Proofs.Template.Compiled
import Courier.Proofs.Language.Named
import Courier.Proofs.Language.Documents
import Courier.Proofs.Template.Lookups
import Courier.Proofs.Template.Rendering
import Courier.Proofs.Template.LiteralStart
import Courier.Proofs.Results
import Courier.Proofs.Text.Percent
import Courier.Proofs.Url.Form
import Courier.Proofs.Url.Address
import Courier.Proofs.Url.Composed
import Courier.Proofs.Url.Canonical
import Courier.Proofs.Url.Origin
import Courier.Proofs.Step
import Courier.Proofs.Request.Address
import Courier.Proofs.Document.Json
import Courier.Proofs.Document.Entries
import Courier.Proofs.Request.Isolation
import Courier.Proofs.Engine
import Courier.Proofs.Response.Classification
import Courier.Proofs.Mapping
import Courier.Proofs.Formula.Reading
import Courier.Proofs.Formula.KeyPath
import Courier.Proofs.Formula.Interpolation
import Courier.Proofs.Template.SingleTag
import Courier.Proofs.Formula.Agreement
import Courier.Proofs.Response.Independence
import Courier.Proofs.Tame.Values
import Courier.Proofs.Tame.Filters
import Courier.Proofs.Tame.Steps
import Courier.Proofs.Tame.Iteration
import Courier.Proofs.Tame.Expressions
import Courier.Proofs.Tame.Statements
import Courier.Proofs.Tame.Data
import Courier.Proofs.Tame.Runs
import Courier.Proofs.Request.Untouched
import Courier.Proofs.Url.Refusal
import Courier.Proofs.CommandLine
import Courier.Proofs.Document.Literals
import Courier.Proofs.Document.Written
import Courier.Proofs.Exchange.Fields
import Courier.Proofs.Text.Halves
import Courier.Proofs.Template.Names
import Courier.Proofs.Response.Rooting
import Courier.Proofs.Language.Assignment
import Courier.Proofs.Language.Settled
import Courier.Proofs.Response.Extraction
import Courier.Proofs.Exchange.Form
import Courier.Proofs.Request.Headers
import Courier.Proofs.Document.Paths
import Courier.Proofs.Authentication
import Courier.Proofs.Url.Query
import Courier.Proofs.Template.Cache
import Courier.Proofs.Formula.Quoted
import Courier.Proofs.Request.HeaderNames
import Courier.Proofs.Exchange.Destination
import Courier.Proofs.Exchange.Endings
import Courier.Proofs.Text.Base64
import Courier.Proofs.Text.Trimming
import Courier.Proofs.Response.Cutting
import Courier.Proofs.Text.Digits
import Courier.Proofs.Document.Lookups
import Courier.Proofs.Template.LiteralText
import Courier.Proofs.Formula.Wrapped
import Courier.Proofs.Exchange.Grouping
