import QueryRelay.Keyed
import QueryRelay.Text.Search
import QueryRelay.Availability
import QueryRelay.Backend.Client
import QueryRelay.Backend.Hosted
import QueryRelay.Backend.Scripted
import QueryRelay.Cache.Memory
import QueryRelay.Cache.Store
import QueryRelay.Command.Answer
import QueryRelay.Command.Limits
import QueryRelay.Command.Line
import QueryRelay.Command.Retries
import QueryRelay.Command.Scenario
import QueryRelay.Command.Setup
import QueryRelay.Command.Spec
import QueryRelay.Command.Values
import QueryRelay.Context
import QueryRelay.Context.Tree
import QueryRelay.Decimal.Binary64
import QueryRelay.Decimal.Ieee
import QueryRelay.Decimal.Shortest
import QueryRelay.Digest.Sha256
import QueryRelay.Failure
import QueryRelay.Gateway.Basic
import QueryRelay.Gateway.Dispatch
import QueryRelay.Gateway.Fanout
import QueryRelay.Gateway.Lazy
import QueryRelay.Http.ErrorBody
import QueryRelay.Http.Headers
import QueryRelay.Http.MediaType
import QueryRelay.Http.Server
import QueryRelay.Json.Read
import QueryRelay.Json.Value
import QueryRelay.Json.Write
import QueryRelay.Main
import QueryRelay.Net.Address
import QueryRelay.Provider
import QueryRelay.Query.Body
import QueryRelay.Query.FanoutRequest
import QueryRelay.Query.Outcome
import QueryRelay.Query.Request
import QueryRelay.Query.Response
import QueryRelay.Random.ChaCha
import QueryRelay.RateLimit.Bucket
import QueryRelay.RateLimit.ClientId
import QueryRelay.RateLimit.Limiter
import QueryRelay.Registry
import QueryRelay.Retry
import QueryRelay.Router
import QueryRelay.Schema.Decoder
import QueryRelay.Schema.Fault
import QueryRelay.Schema.TextReader
import QueryRelay.Settings
import QueryRelay.TaskType
import QueryRelay.Text.Blank
import QueryRelay.Text.Cased
import QueryRelay.Text.Lower
import QueryRelay.Text.LowerTable
import QueryRelay.Time.Stamp
import QueryRelay.Proofs.Gateway.Exec
import QueryRelay.Proofs.Gateway.Routing
import QueryRelay.Proofs.Gateway.Calls
import QueryRelay.Proofs.Gateway.Miss
import QueryRelay.Proofs.Gateway.Fanout
import QueryRelay.Proofs.Gateway.Store
import QueryRelay.Proofs.Cache.Memory
import QueryRelay.Proofs.RateLimit.Isolation
import QueryRelay.Proofs.Gateway.Refresh
import QueryRelay.Proofs.Keyed
import QueryRelay.Proofs.Schema.Record
import QueryRelay.Proofs.Schema.RoundTrip
import QueryRelay.Proofs.Gateway.Counters
import QueryRelay.Proofs.Waits
import QueryRelay.Proofs.Gateway.Stages
import QueryRelay.Proofs.Retry.Runs
import QueryRelay.Proofs.Backend.Prompts
import QueryRelay.Proofs.Gateway.LazyMoves
import QueryRelay.Proofs.Gateway.SingleFlight
import QueryRelay.Proofs.Json.Quote
import QueryRelay.Proofs.Query.CacheKey
import QueryRelay.Proofs.Backend.Hosted
import QueryRelay.Proofs.Instants
import QueryRelay.Proofs.Http.Handlers
import QueryRelay.Proofs.Context.Race
import QueryRelay.Proofs.Context.Tree
