import Tailnet.Address.Basic
import Tailnet.Address.Printer
import Tailnet.Address.Reader
import Tailnet.Calendar
import Tailnet.Catalog.Basic
import Tailnet.Catalog.Name
import Tailnet.Command.Basic
import Tailnet.Command.Options
import Tailnet.Command.Run
import Tailnet.Command.Summary
import Tailnet.Decimal.Binary
import Tailnet.Decimal.Notation
import Tailnet.Decimal.Shortest
import Tailnet.Digest.Sha256
import Tailnet.Domain.Codepoint
import Tailnet.Domain.Direction
import Tailnet.Domain.Joining
import Tailnet.Domain.Label
import Tailnet.Domain.Name
import Tailnet.Domain.Punycode
import Tailnet.Environment
import Tailnet.Files.Path
import Tailnet.Files.Tree
import Tailnet.Http.Breaker
import Tailnet.Http.Charset
import Tailnet.Http.Client
import Tailnet.Http.Header
import Tailnet.Http.Host
import Tailnet.Http.Message
import Tailnet.Http.Parameter
import Tailnet.Http.Percent
import Tailnet.Http.Query
import Tailnet.Http.Status
import Tailnet.Http.Url
import Tailnet.Http.Wire
import Tailnet.Integer.Numeral
import Tailnet.Json.Bytes
import Tailnet.Json.Reader
import Tailnet.Json.Writer
import Tailnet.Main
import Tailnet.Path
import Tailnet.Plan.Apply
import Tailnet.Plan.Basic
import Tailnet.Plan.Dns
import Tailnet.Plan.Key
import Tailnet.Plan.Recording
import Tailnet.Policy.Approval
import Tailnet.Policy.Compilation
import Tailnet.Policy.Document
import Tailnet.Policy.Rule
import Tailnet.Policy.Session
import Tailnet.Policy.Validation
import Tailnet.Port
import Tailnet.Principal.Basic
import Tailnet.Principal.Destination
import Tailnet.Problem
import Tailnet.Proofs.Address.Grammar
import Tailnet.Proofs.Address.Groups
import Tailnet.Proofs.Address.Numeral
import Tailnet.Proofs.Address.Printed
import Tailnet.Proofs.Address.Recognition
import Tailnet.Proofs.Address.RoundTrip
import Tailnet.Proofs.Address.Spelling
import Tailnet.Proofs.Catalog.Addressing
import Tailnet.Proofs.Catalog.Invariant
import Tailnet.Proofs.Catalog.Lookup
import Tailnet.Proofs.Catalog.Name
import Tailnet.Proofs.Catalog.Refusal
import Tailnet.Proofs.Catalog.Registration
import Tailnet.Proofs.Catalog.Removal
import Tailnet.Proofs.Command.Ending
import Tailnet.Proofs.Command.Legible
import Tailnet.Proofs.Command.Report
import Tailnet.Proofs.Command.Validity
import Tailnet.Proofs.Command.Verdict
import Tailnet.Proofs.Display
import Tailnet.Proofs.Http.Breaker
import Tailnet.Proofs.Http.Client
import Tailnet.Proofs.Http.Lawful
import Tailnet.Proofs.Http.Path
import Tailnet.Proofs.Http.Percent
import Tailnet.Proofs.Http.Retry
import Tailnet.Proofs.Http.Secrecy
import Tailnet.Proofs.Http.Trace
import Tailnet.Proofs.Http.Url
import Tailnet.Proofs.Json.Bytes
import Tailnet.Proofs.Json.Completeness
import Tailnet.Proofs.Json.Conformance
import Tailnet.Proofs.Json.Grammar
import Tailnet.Proofs.Json.Reader
import Tailnet.Proofs.Json.Token
import Tailnet.Proofs.Json.Writer
import Tailnet.Proofs.Overlay.Approvers
import Tailnet.Proofs.Overlay.Declarations
import Tailnet.Proofs.Overlay.Depth
import Tailnet.Proofs.Overlay.Failing
import Tailnet.Proofs.Overlay.Homomorphism
import Tailnet.Proofs.Overlay.Lists
import Tailnet.Proofs.Overlay.Misshapen
import Tailnet.Proofs.Overlay.Options
import Tailnet.Proofs.Overlay.Paths
import Tailnet.Proofs.Overlay.Sections
import Tailnet.Proofs.Overlay.Stopping
import Tailnet.Proofs.Plain
import Tailnet.Proofs.Plan.Application
import Tailnet.Proofs.Plan.Attempts
import Tailnet.Proofs.Plan.Delivery
import Tailnet.Proofs.Plan.Dns
import Tailnet.Proofs.Plan.Preview
import Tailnet.Proofs.Plan.Secrecy
import Tailnet.Proofs.Plan.Stages
import Tailnet.Proofs.Policy.Building
import Tailnet.Proofs.Policy.Destinations
import Tailnet.Proofs.Policy.Encoding
import Tailnet.Proofs.Policy.Faults
import Tailnet.Proofs.Policy.FixedPoint
import Tailnet.Proofs.Policy.Integrity
import Tailnet.Proofs.Policy.Listing
import Tailnet.Proofs.Policy.Locality
import Tailnet.Proofs.Policy.Normal
import Tailnet.Proofs.Policy.Pointing
import Tailnet.Proofs.Policy.Pruning
import Tailnet.Proofs.Policy.Rendering
import Tailnet.Proofs.Policy.Reordering
import Tailnet.Proofs.Policy.Routes
import Tailnet.Proofs.Policy.Serialization
import Tailnet.Proofs.Policy.Tokens
import Tailnet.Proofs.Policy.Wording
import Tailnet.Proofs.Port
import Tailnet.Proofs.Port.Grammar
import Tailnet.Proofs.Principal
import Tailnet.Proofs.Reading
import Tailnet.Proofs.Scalar
import Tailnet.Proofs.Session.Bookkeeping
import Tailnet.Proofs.Session.Drafts
import Tailnet.Proofs.Session.Failure
import Tailnet.Proofs.Session.Naming
import Tailnet.Proofs.Session.Placing
import Tailnet.Proofs.Session.Rebuilding
import Tailnet.Proofs.Session.Registration
import Tailnet.Proofs.Session.Sharing
import Tailnet.Proofs.Source.Endless
import Tailnet.Proofs.Source.Keys
import Tailnet.Proofs.Source.Loading
import Tailnet.Proofs.Source.Refusal
import Tailnet.Proofs.Source.Sections
import Tailnet.Proofs.Source.Shape
import Tailnet.Proofs.Success
import Tailnet.Proofs.Table
import Tailnet.Proofs.Terminal.Markup
import Tailnet.Proofs.Terminal.Page
import Tailnet.Proofs.Terminal.Style
import Tailnet.Proofs.Text.Cut
import Tailnet.Proofs.Text.Digit
import Tailnet.Proofs.Text.Encoding
import Tailnet.Proofs.Text.Trim
import Tailnet.Proofs.Textual
import Tailnet.Proofs.Tree
import Tailnet.Proofs.Value
import Tailnet.Settings.Assignments
import Tailnet.Settings.Basic
import Tailnet.Settings.Integer
import Tailnet.Source.Basic
import Tailnet.Source.File
import Tailnet.Source.Overlay
import Tailnet.Source.Reader
import Tailnet.Table
import Tailnet.Terminal.Literal
import Tailnet.Terminal.Markup
import Tailnet.Terminal.Page
import Tailnet.Terminal.Picture
import Tailnet.Terminal.Style
import Tailnet.Terminal.Width
import Tailnet.Text.Blank
import Tailnet.Text.Codepage
import Tailnet.Text.Composition
import Tailnet.Text.Digit
import Tailnet.Text.Encoding
import Tailnet.Text.Half
import Tailnet.Text.Lowercase
import Tailnet.Text.Printable
import Tailnet.Text.Quoted
import Tailnet.Text.Ranges
import Tailnet.Text.Split
import Tailnet.Text.Word
import Tailnet.Value.Basic
import Tailnet.Value.Conversion
import Tailnet.Value.Display
import Tailnet.Value.Loop
import Tailnet.Yaml.Cursor
import Tailnet.Yaml.Document
import Tailnet.Yaml.Error
import Tailnet.Yaml.Node.Basic
import Tailnet.Yaml.Node.Reader
import Tailnet.Yaml.Plain
import Tailnet.Yaml.Scalar
import Tailnet.Yaml.Tagged
import Tailnet.Yaml.Token
import Tailnet.Yaml.Token.Lexer
