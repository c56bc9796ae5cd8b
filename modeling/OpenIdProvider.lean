import OpenIdProvider.Calendar
import OpenIdProvider.Clock
import OpenIdProvider.Codec.Base64
import OpenIdProvider.Codec.Der
import OpenIdProvider.Codec.Form
import OpenIdProvider.Codec.Pem
import OpenIdProvider.Codec.Percent
import OpenIdProvider.CommandLine.Basic
import OpenIdProvider.CommandLine.Help
import OpenIdProvider.CommandLine.Switch
import OpenIdProvider.Config.Basic
import OpenIdProvider.Config.Load
import OpenIdProvider.Config.Overrides
import OpenIdProvider.Config.Validation
import OpenIdProvider.Crypto.Rsa
import OpenIdProvider.Crypto.Sha256
import OpenIdProvider.File
import OpenIdProvider.Grant
import OpenIdProvider.Http.Message
import OpenIdProvider.Http.Reply
import OpenIdProvider.Http.Target
import OpenIdProvider.Json.Basic
import OpenIdProvider.Json.Failure
import OpenIdProvider.Json.Parser
import OpenIdProvider.Json.Printer
import OpenIdProvider.Json.Reader
import OpenIdProvider.Json.Record
import OpenIdProvider.Json.Skip
import OpenIdProvider.Key.Authority
import OpenIdProvider.Key.Encoding
import OpenIdProvider.Key.Stored
import OpenIdProvider.Main
import OpenIdProvider.Metadata
import OpenIdProvider.Net.Ipv4
import OpenIdProvider.Net.Ipv6
import OpenIdProvider.Net.SocketAddress
import OpenIdProvider.Number.BigEndian
import OpenIdProvider.Number.Binary64
import OpenIdProvider.Number.Notation
import OpenIdProvider.Number.Shortest
import OpenIdProvider.Params
import OpenIdProvider.Program
import OpenIdProvider.Proofs.Calendar
import OpenIdProvider.Proofs.Chain
import OpenIdProvider.Proofs.Codec.Base64
import OpenIdProvider.Proofs.Codec.Form
import OpenIdProvider.Proofs.Codec.Percent
import OpenIdProvider.Proofs.Config.Advertised
import OpenIdProvider.Proofs.Config.Layers
import OpenIdProvider.Proofs.Config.Usable
import OpenIdProvider.Proofs.Crypto.Rsa
import OpenIdProvider.Proofs.Decision
import OpenIdProvider.Proofs.Json.Members
import OpenIdProvider.Proofs.Json.Record
import OpenIdProvider.Proofs.Json.Scalar
import OpenIdProvider.Proofs.Json.Skip
import OpenIdProvider.Proofs.Json.Value
import OpenIdProvider.Proofs.Number.BigEndian
import OpenIdProvider.Proofs.Number.Binary64
import OpenIdProvider.Proofs.Params
import OpenIdProvider.Proofs.Provider.Aborted
import OpenIdProvider.Proofs.Provider.Access
import OpenIdProvider.Proofs.Provider.Agreement
import OpenIdProvider.Proofs.Provider.Assembly
import OpenIdProvider.Proofs.Provider.Authentication
import OpenIdProvider.Proofs.Provider.AuthorizationDecision
import OpenIdProvider.Proofs.Provider.Checks
import OpenIdProvider.Proofs.Provider.Client
import OpenIdProvider.Proofs.Provider.CodeUse
import OpenIdProvider.Proofs.Provider.Declined
import OpenIdProvider.Proofs.Provider.Delivery
import OpenIdProvider.Proofs.Provider.Disclosure
import OpenIdProvider.Proofs.Provider.Effect
import OpenIdProvider.Proofs.Provider.Expiry
import OpenIdProvider.Proofs.Provider.Frame
import OpenIdProvider.Proofs.Provider.History
import OpenIdProvider.Proofs.Provider.Identity
import OpenIdProvider.Proofs.Provider.Issue
import OpenIdProvider.Proofs.Provider.IssuedCode
import OpenIdProvider.Proofs.Provider.Lifetime
import OpenIdProvider.Proofs.Provider.Persistence
import OpenIdProvider.Proofs.Provider.Publication
import OpenIdProvider.Proofs.Provider.QueuedErrors
import OpenIdProvider.Proofs.Provider.Refusal
import OpenIdProvider.Proofs.Provider.Release
import OpenIdProvider.Proofs.Provider.ScopeGrammar
import OpenIdProvider.Proofs.Provider.SessionEnd
import OpenIdProvider.Proofs.Provider.Signing
import OpenIdProvider.Proofs.Provider.TokenDecision
import OpenIdProvider.Proofs.Provider.TokenText
import OpenIdProvider.Proofs.Provider.Traceable
import OpenIdProvider.Proofs.Redirect.Query
import OpenIdProvider.Proofs.Redirect.Target
import OpenIdProvider.Proofs.Scope
import OpenIdProvider.Proofs.Session.Claims
import OpenIdProvider.Proofs.Session.Store
import OpenIdProvider.Proofs.Text.Ascii
import OpenIdProvider.Proofs.Text.Split
import OpenIdProvider.Proofs.Text.Utf8
import OpenIdProvider.Proofs.Token.Compact
import OpenIdProvider.Proofs.Token.Parts
import OpenIdProvider.Proofs.Unicode.Composition
import OpenIdProvider.Proofs.Url.Authority
import OpenIdProvider.Proofs.Url.Blank
import OpenIdProvider.Proofs.Url.Domain
import OpenIdProvider.Proofs.Url.Escaping
import OpenIdProvider.Proofs.Url.Extended
import OpenIdProvider.Proofs.Url.Host
import OpenIdProvider.Proofs.Url.Path
import OpenIdProvider.Proofs.Url.ReadBack
import OpenIdProvider.Proofs.Url.Reference
import OpenIdProvider.Proofs.User
import OpenIdProvider.ProtocolError
import OpenIdProvider.Provider.Access
import OpenIdProvider.Provider.Authorization
import OpenIdProvider.Provider.Basic
import OpenIdProvider.Provider.Exchange
import OpenIdProvider.Provider.Requests
import OpenIdProvider.Provider.Run
import OpenIdProvider.Queue
import OpenIdProvider.Redirect
import OpenIdProvider.Scope
import OpenIdProvider.Server
import OpenIdProvider.Session.Basic
import OpenIdProvider.Session.Store
import OpenIdProvider.Settings
import OpenIdProvider.Text.Ascii
import OpenIdProvider.Text.Blank
import OpenIdProvider.Text.Quoted
import OpenIdProvider.Text.Split
import OpenIdProvider.Text.Utf8
import OpenIdProvider.Token.Claims
import OpenIdProvider.Token.Compact
import OpenIdProvider.Token.Header
import OpenIdProvider.TokenResponse
import OpenIdProvider.Unicode.Combining
import OpenIdProvider.Unicode.Composition
import OpenIdProvider.Unicode.Direction
import OpenIdProvider.Unicode.Joining
import OpenIdProvider.Unicode.Rewriting
import OpenIdProvider.Unicode.Spans
import OpenIdProvider.Url.Basic
import OpenIdProvider.Url.Idna
import OpenIdProvider.Url.Idna.Mapping
import OpenIdProvider.Url.Parser
import OpenIdProvider.Url.Path
import OpenIdProvider.Url.Punycode
import OpenIdProvider.User
import OpenIdProvider.User.Document
import OpenIdProvider.Validation
import OpenIdProvider.Yaml.Cursor
import OpenIdProvider.Yaml.Decoding
import OpenIdProvider.Yaml.Layout
import OpenIdProvider.Yaml.Node
import OpenIdProvider.Yaml.Scalar
import OpenIdProvider.Yaml.Token
import OpenIdProvider.Proofs.Document
import OpenIdProvider.Proofs.MediaType
import OpenIdProvider.Proofs.Codec.Der
import OpenIdProvider.Proofs.Codec.Pem
import OpenIdProvider.Proofs.Key.Export
import OpenIdProvider.Proofs.Provider.ResponseShape
