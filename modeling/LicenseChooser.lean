import LicenseChooser.Answers.Basic
import LicenseChooser.Answers.Payload
import LicenseChooser.Catalog.Assembly
import LicenseChooser.Catalog.Client
import LicenseChooser.Catalog.Retrieval
import LicenseChooser.CommandLine.Error
import LicenseChooser.CommandLine.Help
import LicenseChooser.CommandLine.Invocation
import LicenseChooser.CommandLine.Level
import LicenseChooser.CommandLine.Option
import LicenseChooser.Decimal.Binary64
import LicenseChooser.Decimal.Shortest
import LicenseChooser.Failure
import LicenseChooser.Files.Lookup
import LicenseChooser.Files.Tree
import LicenseChooser.Http.Charset
import LicenseChooser.Http.Dialogue
import LicenseChooser.Http.Interleaving
import LicenseChooser.Http.MediaType
import LicenseChooser.Http.Message
import LicenseChooser.Http.Redirect
import LicenseChooser.Json.Decoding
import LicenseChooser.Json.Number
import LicenseChooser.Json.Token
import LicenseChooser.Json.Value
import LicenseChooser.Json.Writing
import LicenseChooser.License.Reading
import LicenseChooser.License.Summary
import LicenseChooser.License.Writing
import LicenseChooser.Log
import LicenseChooser.Main
import LicenseChooser.Markup.Attribute
import LicenseChooser.Markup.Document
import LicenseChooser.Markup.Element
import LicenseChooser.Markup.Entity
import LicenseChooser.Markup.Error
import LicenseChooser.Markup.Event
import LicenseChooser.Markup.Source
import LicenseChooser.Markup.Token
import LicenseChooser.Program
import LicenseChooser.Proofs.Answers.Acceptance
import LicenseChooser.Proofs.Answers.Distinctness
import LicenseChooser.Proofs.Answers.Order
import LicenseChooser.Proofs.Answers.Payload
import LicenseChooser.Proofs.Catalog.Addresses
import LicenseChooser.Proofs.Catalog.Completeness
import LicenseChooser.Proofs.Catalog.Failures
import LicenseChooser.Proofs.Catalog.Issuing
import LicenseChooser.Proofs.Catalog.Progress
import LicenseChooser.Proofs.Catalog.Publishing
import LicenseChooser.Proofs.Catalog.Queries
import LicenseChooser.Proofs.Catalog.Requests
import LicenseChooser.Proofs.Catalog.Retrieval
import LicenseChooser.Proofs.CommandLine.Answers
import LicenseChooser.Proofs.CommandLine.Arguments
import LicenseChooser.Proofs.CommandLine.Coverage
import LicenseChooser.Proofs.CommandLine.Parsing
import LicenseChooser.Proofs.Except
import LicenseChooser.Proofs.Http.Charset
import LicenseChooser.Proofs.Http.Completion
import LicenseChooser.Proofs.Http.Ensuring
import LicenseChooser.Proofs.Http.Exchange
import LicenseChooser.Proofs.Http.Interleaving
import LicenseChooser.Proofs.Http.Limit
import LicenseChooser.Proofs.Http.Replies
import LicenseChooser.Proofs.Json.Objects
import LicenseChooser.Proofs.License.Defects
import LicenseChooser.Proofs.License.Extraction
import LicenseChooser.Proofs.License.Identifiers
import LicenseChooser.Proofs.License.Issued
import LicenseChooser.Proofs.License.Normal
import LicenseChooser.Proofs.License.RoundTrip
import LicenseChooser.Proofs.Markup.Attributes
import LicenseChooser.Proofs.Markup.Canonical
import LicenseChooser.Proofs.Markup.CharacterData
import LicenseChooser.Proofs.Markup.Cutting
import LicenseChooser.Proofs.Markup.DocumentOrder
import LicenseChooser.Proofs.Markup.Escaping
import LicenseChooser.Proofs.Markup.Layout
import LicenseChooser.Proofs.Markup.Nesting
import LicenseChooser.Proofs.Markup.Printing
import LicenseChooser.Proofs.Markup.References
import LicenseChooser.Proofs.Markup.Selection
import LicenseChooser.Proofs.Markup.Tags
import LicenseChooser.Proofs.Markup.Traversal
import LicenseChooser.Proofs.Pairs
import LicenseChooser.Proofs.Program.Construction
import LicenseChooser.Proofs.Program.Issuing
import LicenseChooser.Proofs.Program.Results
import LicenseChooser.Proofs.Program.Settings
import LicenseChooser.Proofs.Settings.Reading
import LicenseChooser.Proofs.Settings.Sources
import LicenseChooser.Proofs.Text.Scanning
import LicenseChooser.Proofs.Text.Utf8
import LicenseChooser.Proofs.Toml.Integers
import LicenseChooser.Proofs.Toml.Keys
import LicenseChooser.Proofs.Url.Form
import LicenseChooser.Proofs.Url.Percent
import LicenseChooser.Proofs.Url.Segments
import LicenseChooser.Report.Style
import LicenseChooser.Report.Table
import LicenseChooser.Report.Terminal
import LicenseChooser.Settings.Basic
import LicenseChooser.Settings.Reading
import LicenseChooser.Settings.Sources
import LicenseChooser.Shape
import LicenseChooser.Text.Base64
import LicenseChooser.Text.Blank
import LicenseChooser.Text.Composition
import LicenseChooser.Text.CompositionData
import LicenseChooser.Text.Encoding.Big5Data
import LicenseChooser.Text.Encoding.DoubleByte
import LicenseChooser.Text.Encoding.EucKrData
import LicenseChooser.Text.Encoding.Gb18030
import LicenseChooser.Text.Encoding.Gb18030Data
import LicenseChooser.Text.Encoding.Japanese
import LicenseChooser.Text.Encoding.JisData
import LicenseChooser.Text.Encoding.SingleByteData
import LicenseChooser.Text.Numeral
import LicenseChooser.Text.Quoted
import LicenseChooser.Text.QuotedData
import LicenseChooser.Text.Scan
import LicenseChooser.Text.Table
import LicenseChooser.Text.Utf8
import LicenseChooser.Text.Width
import LicenseChooser.Text.WidthData
import LicenseChooser.Toml.Document
import LicenseChooser.Toml.Excerpt
import LicenseChooser.Toml.Fault
import LicenseChooser.Toml.Moment
import LicenseChooser.Toml.Scalar
import LicenseChooser.Toml.Table
import LicenseChooser.Toml.Text
import LicenseChooser.Toml.Token
import LicenseChooser.Toml.Value
import LicenseChooser.Url.Basic
import LicenseChooser.Url.Error
import LicenseChooser.Url.Form
import LicenseChooser.Url.Host
import LicenseChooser.Url.Host.Direction
import LicenseChooser.Url.Host.DirectionData
import LicenseChooser.Url.Host.Domain
import LicenseChooser.Url.Host.Ipv4
import LicenseChooser.Url.Host.Ipv6
import LicenseChooser.Url.Host.Joining
import LicenseChooser.Url.Host.JoiningData
import LicenseChooser.Url.Host.Mapping
import LicenseChooser.Url.Host.MappingData
import LicenseChooser.Url.Host.Punycode
import LicenseChooser.Url.Path
import LicenseChooser.Url.Percent
import LicenseChooser.Url.Reading
