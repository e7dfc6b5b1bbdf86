import OData.Text.Ascii
import OData.Text.Blank
import OData.Text.Utf8
import OData.Text.Percent
import OData.Text.Quoted
import OData.Unicode.CodeSet
import OData.Unicode.Category
import OData.Unicode.Composition
import OData.Unicode.Direction
import OData.Unicode.HostCharacter
import OData.Unicode.Joining
import OData.Text.Shown
import OData.Number.Word
import OData.Number.Binary64
import OData.Number.Shortest
import OData.Number.Decimal
import OData.Calendar.Date
import OData.Calendar.Moment
import OData.Calendar.Timestamp
import OData.Calendar.Duration
import OData.Url.Basic
import OData.Url.Punycode
import OData.Url.Label
import OData.Url.Host
import OData.Url.Parser
import OData.Url.Form
import OData.Json.Basic
import OData.Json.Numeral
import OData.Json.Reader
import OData.Json.Writer
import OData.Json.Embedded
import OData.Json.Shape
import OData.Value
import OData.Query.Basic
import OData.Query.Words
import OData.Grammar
import OData.Literal
import OData.Filter
import OData.RequestUri
import OData.Http.Status
import OData.Http.Headers
import OData.Http.Message
import OData.Error
import OData.Event
import OData.Payload
import OData.Config
import OData.Exchange
import OData.Client
import OData.Draft.Basic
import OData.Draft.Effect
import OData.Draft.Request
import OData.Draft.Terminal
import OData.Paging.Basic
import OData.Paging.Blocking
import OData.Paging.Stream
import OData.Paging.ItemStream
import OData.Paging.Script
import OData.Proofs.Text.CharClass
import OData.Proofs.Text.Utf8
import OData.Proofs.Text.Percent
import OData.Proofs.Value.NaturalText
import OData.Proofs.Calendar.TimestampText
import OData.Proofs.Literal.Form
import OData.Proofs.Literal.Key
import OData.Proofs.Filter.Rendering
import OData.Proofs.Filter.Scan
import OData.Proofs.Filter.Tokens
import OData.Proofs.Filter.ReadBack
import OData.Proofs.RequestUri.Wire
import OData.Proofs.RequestUri.Decoding
import OData.Proofs.Url.Resolution
import OData.Proofs.Url.Extension
import OData.Proofs.Config.ServiceRoot
import OData.Proofs.RequestUri.Reference
import OData.Proofs.Client.Requests
import OData.Proofs.Paging.Runs
import OData.Proofs.Paging.Requests
import OData.Proofs.Draft.Operations
import OData.Proofs.Draft.FirstRequest
import OData.Proofs.Paging.Visits
import OData.Proofs.Paging.Scripts
import OData.Proofs.Paging.Journal
import OData.Proofs.Paging.Schedule
import OData.Proofs.Paging.ItemStream
import OData.Proofs.Paging.Lockstep
import OData.Proofs.Json.Embedded
import OData.Proofs.Payload.Noise
import OData.Proofs.Draft.Misuse
import OData.Proofs.Draft.Refusal
import OData.Proofs.Draft.Components
import OData.Proofs.Draft.Reach
import OData.Proofs.Draft.Literals
import OData.Proofs.Draft.Soundness
import OData.Proofs.RequestUri.Forms
import OData.Proofs.Payload.SkipToken
import OData.Proofs.Literal.Token
import OData.Proofs.RequestUri.KeyReading
import OData.Proofs.Client.PageSize
import OData.Proofs.Draft.Isolation
import OData.Proofs.Text.Digits
import OData.Proofs.Payload.Count
import OData.Proofs.Text.Boundary
import OData.Proofs.Client.Preview
import OData.Proofs.Text.ByteOrder
import OData.Proofs.Json.Sorted
import OData.Proofs.Config.DefaultHeaders
import OData.Proofs.Client.Precedence
import OData.Proofs.Url.Address
import OData.Proofs.Url.Host
import OData.Proofs.Url.Authority
import OData.Proofs.Url.Writing
import OData.Proofs.Config.Normalization
import OData.Proofs.Client.Links
import OData.Proofs.Text.Case
import OData.Proofs.Json.Braces
import OData.Proofs.Calendar.Days
import OData.Proofs.Calendar.WrittenTimestamps
import OData.Proofs.Draft.Timestamps
import OData.Proofs.Draft.Spelling
