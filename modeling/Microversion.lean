import Microversion.Cache.Basic
import Microversion.Cache.Document
import Microversion.Cache.Saving
import Microversion.Cache.ServerKey
import Microversion.Cache.Shared
import Microversion.Client.Basic
import Microversion.Client.Build
import Microversion.Client.Call
import Microversion.Client.Config
import Microversion.Client.Schedule
import Microversion.Client.Settings
import Microversion.Client.Task
import Microversion.Decimal.Double
import Microversion.Decimal.Shortest
import Microversion.Domain.Allowed
import Microversion.Domain.CombiningClass
import Microversion.Domain.Composition
import Microversion.Domain.Direction
import Microversion.Domain.Joining
import Microversion.Domain.Label
import Microversion.Domain.Mapping
import Microversion.Domain.Mark
import Microversion.Domain.NormalForm
import Microversion.Domain.Punycode
import Microversion.Domain.Run
import Microversion.Duration
import Microversion.Endpoint
import Microversion.Environment
import Microversion.Error.Basic
import Microversion.Error.Fault
import Microversion.Error.StatusKind
import Microversion.Http.Header
import Microversion.Http.Message
import Microversion.Json.Printer
import Microversion.Json.Record
import Microversion.Json.Tree
import Microversion.Json.Value
import Microversion.Negotiation.Basic
import Microversion.Negotiation.Inquiry
import Microversion.Proofs.Cache.Atomicity
import Microversion.Proofs.Cache.Document
import Microversion.Proofs.Cache.Entries
import Microversion.Proofs.Cache.Naming
import Microversion.Proofs.Cache.Persistence
import Microversion.Proofs.Cache.Readiness
import Microversion.Proofs.Cache.Refinement
import Microversion.Proofs.Cache.Saving
import Microversion.Proofs.Cache.Separation
import Microversion.Proofs.Cache.ServerKey
import Microversion.Proofs.Client.Additional
import Microversion.Proofs.Client.Aftermath
import Microversion.Proofs.Client.Agreement
import Microversion.Proofs.Client.Allowance
import Microversion.Proofs.Client.Beginning
import Microversion.Proofs.Client.Building
import Microversion.Proofs.Client.Collected
import Microversion.Proofs.Client.Conclusion
import Microversion.Proofs.Client.Constancy
import Microversion.Proofs.Client.Convergence
import Microversion.Proofs.Client.Decoding
import Microversion.Proofs.Client.Dialogue
import Microversion.Proofs.Client.Driving
import Microversion.Proofs.Client.Hint
import Microversion.Proofs.Client.History
import Microversion.Proofs.Client.Outgoing
import Microversion.Proofs.Client.Override
import Microversion.Proofs.Client.Progress
import Microversion.Proofs.Client.Tally
import Microversion.Proofs.Client.Turn
import Microversion.Proofs.Client.VersionHeader
import Microversion.Proofs.Client.World
import Microversion.Proofs.Domain.AsciiForm
import Microversion.Proofs.Endpoint
import Microversion.Proofs.Error.Fault
import Microversion.Proofs.Json.Strings
import Microversion.Proofs.Json.Values
import Microversion.Proofs.Negotiation.KnownVersion
import Microversion.Proofs.Negotiation.Outcome
import Microversion.Proofs.Negotiation.Range
import Microversion.Proofs.Negotiation.Settled
import Microversion.Proofs.Resource.Addressing
import Microversion.Proofs.Resource.Ending
import Microversion.Proofs.Resource.Paging
import Microversion.Proofs.Resource.Truncation
import Microversion.Proofs.Resource.Walk
import Microversion.Proofs.Retry
import Microversion.Proofs.Session.Redirect
import Microversion.Proofs.Storage.Operations
import Microversion.Proofs.Storage.Path
import Microversion.Proofs.Storage.Place
import Microversion.Proofs.Storage.Walk
import Microversion.Proofs.Table
import Microversion.Proofs.Text.Pieces
import Microversion.Proofs.Url.Authority
import Microversion.Proofs.Url.Below
import Microversion.Proofs.Url.Host
import Microversion.Proofs.Url.Percent
import Microversion.Proofs.Url.Scheme
import Microversion.Proofs.Url.Segment
import Microversion.Proofs.Url.Written
import Microversion.Proofs.Version.Grammar
import Microversion.Proofs.Version.Notation
import Microversion.Proofs.Version.Order
import Microversion.Records
import Microversion.Resource.Kind
import Microversion.Resource.Listing
import Microversion.Resource.Operation
import Microversion.Retry
import Microversion.Session.Config
import Microversion.Session.Transport
import Microversion.Storage.Errno
import Microversion.Storage.FileSystem
import Microversion.Storage.Path
import Microversion.Table
import Microversion.Text.Blank
import Microversion.Text.Digits
import Microversion.Text.Split
import Microversion.Text.Utf8
import Microversion.Url.Basic
import Microversion.Url.Host
import Microversion.Url.ParseError
import Microversion.Url.Parser
import Microversion.Url.Percent
import Microversion.Version.Basic
import Microversion.Version.Parser
import Microversion.Version.Requested
import Microversion.Version.SelectState
