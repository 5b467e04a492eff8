import QueryRelay.Gateway.Fanout
import QueryRelay.Http.MediaType
import QueryRelay.Http.ErrorBody
import QueryRelay.RateLimit.ClientId
import QueryRelay.Query.Body
import QueryRelay.Json.Read

/-!
# The HTTP surface

The gateway answers five routes:

| path | method | answer |
|---|---|---|
| `/health` | GET | `{"status":"ok","version":"0.3.0"}` |
| `/v1/query` | POST | one query (`Gateway.handleQuery`) |
| `/v1/query/parallel` | POST | a fan-out (`Gateway.handleFanout`), always 200 once read |
| `/v1/providers` | GET | the availability snapshot (refreshed if due) and the counters |
| `/v1/cache` | DELETE | 204 once the store is flushed |

Paths match exactly (case, trailing slash), the query string aside. An unknown path is 404 and
a known path with another method 405, both without a body. HEAD is served like GET without the
body. An OPTIONS request is a cross-origin preflight and is answered 200 without a body on any
path.

With a rate limiter, every request to a `/v1` path, whatever its method, first passes the
client's bucket and then the global one; the global bucket is not touched when the client is
refused. A refused request is answered 429 with the rate-limit error body.

A query or fan-out body must be declared as JSON (else 415). It is then read straight from its
text (`Request.ofBody`, `FanoutRequest.ofBody`), and the first fault in the text decides the
answer: 400 when the text is not well formed there, 422 when it holds the wrong data; either
way the message gives the fault's path, line and column. Text after the body's value is not
looked at. The request id is the body's, or a fresh one; the request
is checked against the longest query allowed (400 with the error body) and then served under a
context that expires after the server's request timeout and is cancelled when the server shuts
down. A failure is answered with its HTTP status and error body.
-/

namespace QueryRelay

/-- An HTTP request as the server sees it. -/
structure HttpRequest where
  method : String
  /-- The path, with the query string if there is one. -/
  target : String
  headers : Http.Headers := {}
  body : String := ""
  peer : Option Net.IpAddress := none
  deriving Inhabited

/-- The body of an HTTP answer. -/
inductive HttpBody where
  | empty
  | json (j : Json)
  | text (s : String)
  deriving Inhabited

/-- An HTTP answer. -/
structure HttpResponse where
  status : Nat
  body : HttpBody := .empty
  deriving Inhabited

namespace Http

/-- What a route leads to. -/
inductive Endpoint where
  | health
  | query
  | fanout
  | providers
  | flushCache
  deriving DecidableEq, Repr, Inhabited

/-- A route: its path, its method, where it leads, and whether it is rate limited. -/
structure Route where
  path : String
  method : String
  endpoint : Endpoint
  limited : Bool
  deriving Inhabited

/-- The routes of the gateway. -/
def routes : List Route :=
  [⟨"/health", "GET", .health, false⟩, ⟨"/v1/query", "POST", .query, true⟩,
   ⟨"/v1/query/parallel", "POST", .fanout, true⟩, ⟨"/v1/providers", "GET", .providers, true⟩,
   ⟨"/v1/cache", "DELETE", .flushCache, true⟩]

/-- Where a request goes. -/
inductive Dispatch where
  | endpoint (e : Endpoint) (limited : Bool)
  | wrongMethod (limited : Bool)
  | noRoute
  deriving Inhabited

/-- The path of a request target: the text before `?`. -/
def pathOf (target : String) : String := String.ofList (target.toList.takeWhile (· ≠ '?'))

/-- Where a method and path go; HEAD goes where GET goes. -/
def dispatch (method path : String) : Dispatch :=
  match routes.find? (fun r => r.path == path) with
  | none => .noRoute
  | some r =>
    if method == r.method || (method == "HEAD" && r.method == "GET") then .endpoint r.endpoint r.limited
    else .wrongMethod r.limited

/-- The answer for a failure. -/
def failureResponse (e : Failure) (requestId : Option String) : HttpResponse :=
  ⟨e.httpStatus, .json (e.errorBody requestId)⟩

/-- The text of a body that is not declared as JSON. -/
def notJsonText : String := "Expected request with \x60Content-Type: application/json\x60"

/-- Read a body of a JSON type. -/
def readBody {α : Type} (req : HttpRequest) (read : String → Except Schema.TextFault α) :
    Except HttpResponse α :=
  if !declaresJson req.headers then .error ⟨415, .text notJsonText⟩
  else
    match read req.body with
    | .error f =>
      if f.malformed then
        .error ⟨400, .text ("Failed to parse the request body as JSON: " ++ f.describe req.body)⟩
      else
        .error ⟨422, .text ("Failed to deserialize the JSON body into the target type: " ++
          f.describe req.body)⟩
    | .ok a => .ok a

/-- Hexadecimal digits of a number, at least `width` of them. -/
def hexPadded (width n : Nat) : String :=
  let ds := Nat.toDigits 16 n
  String.ofList (List.replicate (width - ds.length) '0' ++ ds)

end Http

namespace Gateway

/-- A fresh request id, in the textual form of a version-4 UUID; ids are handed out in sequence. -/
def freshRequestId : GatewayM String := do
  let g ← get
  set { g with issuedIds := g.issuedIds + 1 }
  return "00000000-0000-4000-8000-" ++ Http.hexPadded 12 g.issuedIds

/-- The availability snapshot as it stands. -/
def snapshot : GatewayM Snapshot := do
  let g ← get
  return { providers := g.router.up, ttlSecs := g.router.ttlSecs,
           refreshedAt := g.router.lastRefresh.map (fun t => Time.Stamp.ofUnixMillis (g.wallOriginMs + t)) }

/-- Pass the rate limiter, if there is one: the refusal, if the request is refused. -/
def passLimiter (req : HttpRequest) : GatewayM (Option HttpResponse) := do
  let g ← get
  match g.limiter with
  | none => return none
  | some l =>
    let id := Http.clientId req.headers req.peer
    let (clientOk, l) := l.allowClient id g.clock
    let (ok, l) := if clientOk then l.allow g.clock else (false, l)
    set { g with limiter := some l }
    return if ok then none else some (Http.failureResponse .rateLimited none)

/-- The request id of a request: its own, or a fresh one. -/
def requestIdOf (r : Request) : GatewayM String :=
  match r.requestId with
  | some i => pure i
  | none => freshRequestId

/-- Serve `/v1/query`. -/
def serveQuery (req : HttpRequest) : GatewayM HttpResponse := do
  match Http.readBody req Request.ofBody with
  | .error resp => return resp
  | .ok payload =>
    let id ← requestIdOf payload
    let payload := { payload with requestId := some id }
    let g ← get
    if let .error e := payload.validate g.server.maxQueryLength then
      return Http.failureResponse e (some id)
    let ctx := { Context.expiring g.clock g.server.requestTimeoutMs with cancel := g.shutdown }
    match ← handleQuery ctx payload with
    | .ok r => return ⟨200, .json r.toJson⟩
    | .error e => return Http.failureResponse e (some id)

/-- Serve `/v1/query/parallel`. -/
def serveFanout (req : HttpRequest) : GatewayM HttpResponse := do
  match Http.readBody req FanoutRequest.ofBody with
  | .error resp => return resp
  | .ok payload =>
    let id ← requestIdOf payload.request
    let request := { payload.request with requestId := some id }
    let g ← get
    if let .error e := request.validate g.server.maxQueryLength then
      return Http.failureResponse e (some id)
    let ctx := { Context.expiring g.clock g.server.requestTimeoutMs with cancel := g.shutdown }
    let report ← handleFanout ctx request payload.providers payload.timeoutMs
    return ⟨200, .json report.toJson⟩

/-- Serve `/v1/providers`. -/
def serveProviders : GatewayM HttpResponse := do
  refreshIfStale
  let s ← snapshot
  return ⟨200, .json (Json.object [("availability", s.toJson), ("stats", (← get).registry.statsJson)])⟩

/-- Serve `/v1/cache`. -/
def serveFlush : GatewayM HttpResponse := do
  match ← storeFlush with
  | .ok () => return ⟨204, .empty⟩
  | .error e => return Http.failureResponse e none

/-- Serve an endpoint. -/
def serveEndpoint (req : HttpRequest) : Http.Endpoint → GatewayM HttpResponse
  | .health => return ⟨200, .json (Json.object [("status", .str "ok"), ("version", .str "0.3.0")])⟩
  | .query => serveQuery req
  | .fanout => serveFanout req
  | .providers => serveProviders
  | .flushCache => serveFlush

/-- Answer an HTTP request. -/
def serveHttp (req : HttpRequest) : GatewayM HttpResponse := do
  if req.method == "OPTIONS" then return ⟨200, .empty⟩
  let strip (r : HttpResponse) : HttpResponse :=
    if req.method == "HEAD" then { r with body := .empty } else r
  match Http.dispatch req.method (Http.pathOf req.target) with
  | .noRoute => return ⟨404, .empty⟩
  | .wrongMethod limited =>
    if limited then
      if let some refusal ← passLimiter req then return strip refusal
    return ⟨405, .empty⟩
  | .endpoint e limited =>
    if limited then
      if let some refusal ← passLimiter req then return strip refusal
    return strip (← serveEndpoint req e)

end Gateway

end QueryRelay
