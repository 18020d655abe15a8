import HttpGateway.Builtin.Edits
import HttpGateway.Builtin.Filters
import HttpGateway.Builtin.Handlers
import HttpGateway.Builtin.Predicates
import HttpGateway.Builtin.Registered
import HttpGateway.Client.CookieDate
import HttpGateway.Client.CookieJar
import HttpGateway.Client.Sending
import HttpGateway.Client.SetCookie
import HttpGateway.Coding.Content
import HttpGateway.Coding.Inflate
import HttpGateway.Configuration.Binding
import HttpGateway.Configuration.Data
import HttpGateway.Configuration.Problem
import HttpGateway.Configuration.Spec
import HttpGateway.Event
import HttpGateway.Exchange
import HttpGateway.Failure
import HttpGateway.Gateway.Compiler
import HttpGateway.Gateway.Filter
import HttpGateway.Gateway.Predicate
import HttpGateway.Gateway.Route
import HttpGateway.Gateway.Session
import HttpGateway.Message.Build
import HttpGateway.Message.Cookies
import HttpGateway.Message.Headers
import HttpGateway.Message.Outbound
import HttpGateway.Message.Request
import HttpGateway.Message.Response
import HttpGateway.Moment.Basic
import HttpGateway.Moment.Iso
import HttpGateway.Moment.Reader
import HttpGateway.Number.Binary64
import HttpGateway.Number.Power
import HttpGateway.Number.Whole
import HttpGateway.Operation.Arguments
import HttpGateway.Operation.Basic
import HttpGateway.Operation.Catalog
import HttpGateway.Operation.Name
import HttpGateway.Operation.ParamType
import HttpGateway.OrderedMap
import HttpGateway.Pattern.Regex.Error
import HttpGateway.Pattern.Regex.Matcher
import HttpGateway.Pattern.Regex.Reader
import HttpGateway.Pattern.Regex.Syntax
import HttpGateway.Pattern.Regex.Template
import HttpGateway.Pattern.Segments
import HttpGateway.Pattern.Wildcard
import HttpGateway.Provider.Declared
import HttpGateway.Provider.Discovery
import HttpGateway.Provider.Offered
import HttpGateway.Provider.ProviderClass
import HttpGateway.Provider.Registry
import HttpGateway.Text.Base64
import HttpGateway.Text.Blank
import HttpGateway.Text.CaseMap
import HttpGateway.Text.Cased
import HttpGateway.Text.CharName
import HttpGateway.Text.CharName.Alphabets
import HttpGateway.Text.CharName.Ancient
import HttpGateway.Text.CharName.EastAsia
import HttpGateway.Text.CharName.Further
import HttpGateway.Text.CharName.Pictures
import HttpGateway.Text.CharName.Symbols
import HttpGateway.Text.Composition
import HttpGateway.Text.Digit
import HttpGateway.Text.Identifier
import HttpGateway.Text.Mark
import HttpGateway.Text.Percent
import HttpGateway.Text.Pieces
import HttpGateway.Text.Printable
import HttpGateway.Text.Quoted
import HttpGateway.Text.Utf8
import HttpGateway.Text.Word
import HttpGateway.Uri.Address
import HttpGateway.Uri.Basic
import HttpGateway.Uri.Direction
import HttpGateway.Uri.HostName
import HttpGateway.Uri.Joining
import HttpGateway.Uri.NameChars
import HttpGateway.Uri.Parts
import HttpGateway.Uri.Punycode
import HttpGateway.Uri.Query
import HttpGateway.Value
import HttpGateway.Proofs.Gateway.Testing
import HttpGateway.Proofs.OrderedMap
import HttpGateway.Proofs.StableSort
import HttpGateway.Proofs.Configuration.RouteOrder
import HttpGateway.Proofs.Gateway.Compilation
import HttpGateway.Proofs.Gateway.Dispatch
import HttpGateway.Proofs.Gateway.Chain
import HttpGateway.Proofs.Provider.Discovery
import HttpGateway.Proofs.Operation.Catalog
import HttpGateway.Proofs.Operation.Arguments
import HttpGateway.Proofs.Operation.Resolution
import HttpGateway.Proofs.Operation.Invocation
import HttpGateway.Proofs.Operation.Lookup
import HttpGateway.Proofs.Gateway.RouteTable
import HttpGateway.Proofs.Gateway.Steps
import HttpGateway.Proofs.Client.Cookies
import HttpGateway.Proofs.Serving
import HttpGateway.Proofs.Builtin.Products
import HttpGateway.Proofs.Builtin.Routes
import HttpGateway.Proofs.Gateway.Forwarding
import HttpGateway.Proofs.Builtin.Isolation
import HttpGateway.Proofs.Text.Pieces
import HttpGateway.Proofs.Text.Utf8
import HttpGateway.Proofs.Text.Percent
import HttpGateway.Proofs.Text.Lower
import HttpGateway.Proofs.Number.Whole
import HttpGateway.Proofs.Uri.Path
import HttpGateway.Proofs.Uri.Authority
import HttpGateway.Proofs.Uri.Settled
import HttpGateway.Proofs.Uri.Named
import HttpGateway.Proofs.Uri.Punycode
import HttpGateway.Proofs.Uri.NameChars
import HttpGateway.Proofs.Uri.HostName
import HttpGateway.Proofs.Uri.Origin
import HttpGateway.Proofs.Message.Request
import HttpGateway.Proofs.Client.Completion
import HttpGateway.Proofs.Builtin.Steps
import HttpGateway.Proofs.Builtin.Layout
import HttpGateway.Proofs.Builtin.Folds
import HttpGateway.Proofs.Builtin.Stripping
import HttpGateway.Proofs.Builtin.Passing
import HttpGateway.Proofs.Builtin.Forwarding
import HttpGateway.Proofs.Builtin.Delivery
import HttpGateway.Proofs.Builtin.Balancing
import HttpGateway.Proofs.Operation.Spellings
import HttpGateway.Proofs.Operation.ProviderOrder
import HttpGateway.Proofs.Builtin.Reports
import HttpGateway.Proofs.Builtin.Attributes
import HttpGateway.Proofs.Builtin.Sharing
import HttpGateway.Proofs.Builtin.Framing
import HttpGateway.Proofs.Configuration.ShortForm
import HttpGateway.Proofs.Pattern.Segments
import HttpGateway.Proofs.Text.Commas
import HttpGateway.Proofs.Operation.Sequences
import HttpGateway.Proofs.Uri.Rebuilding
import HttpGateway.Proofs.Message.Headers
import HttpGateway.Proofs.Builtin.Suiting
import HttpGateway.Proofs.Gateway.Conjunction
import HttpGateway.Proofs.Gateway.Unresolved
import HttpGateway.Proofs.Configuration.Items
import HttpGateway.Proofs.Uri.Obtained
import HttpGateway.Proofs.Uri.Moved
import HttpGateway.Proofs.Message.RawPath
import HttpGateway.Proofs.Builtin.PathEdits
import HttpGateway.Proofs.Pattern.Substitution
import HttpGateway.Proofs.Builtin.Rereading
import HttpGateway.Proofs.Message.Fields
import HttpGateway.Proofs.Builtin.FieldEdits
import HttpGateway.Proofs.Uri.Query
import HttpGateway.Proofs.Builtin.ParameterEdits
import HttpGateway.Proofs.Uri.Stated
import HttpGateway.Proofs.Builtin.Hosts
import HttpGateway.Proofs.Moment.Calendar
import HttpGateway.Proofs.Moment.TimeLine
import HttpGateway.Proofs.Builtin.Times
import HttpGateway.Proofs.Builtin.CookieFields
import HttpGateway.Proofs.Provider.Precedence
import HttpGateway.Proofs.Operation.Notes
import HttpGateway.Proofs.Operation.Views
import HttpGateway.Proofs.Provider.Registration
import HttpGateway.Proofs.Configuration.Rebinding
import HttpGateway.Proofs.Configuration.Numbers
