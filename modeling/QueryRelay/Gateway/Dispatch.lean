import QueryRelay.Gateway.Basic

/-!
# Serving one query

A query goes through the store, the router, one provider call and at most one more:

1. The context is checked; a request whose context is done touches nothing.
2. The store is asked once. A stored response is returned as it was stored, except that it is
   marked as cached, its latency is the time spent so far and its request id is this
   request's. A store that fails counts as not holding the response.
3. The context is checked again and the router chooses a provider (`Gateway.route`).
4. The provider is called under the context (`Gateway.invoke`). A provider with no client fails
   with `missing-credential` at once. A success is recorded with the call's latency, and any
   failure except the context's own is recorded as a failure.
5. A success is answered with a response whose latency runs from the start of the query, with
   the request's id; the response is then stored (a failing store is ignored).
6. A failure that is the context's own or not worth retrying is returned as it is. Otherwise
   the router chooses a replacement; if it cannot, the query fails with the first fault as
   the only provider tried, unless the context ended meanwhile.
7. The replacement is called like the first provider. Its success is answered with one retry
   and the first provider named; its classified failure ends the query with both providers
   tried.

A crash inside a call stops the query at once: the call was counted, nothing was recorded for
it and nothing was stored.
-/

namespace QueryRelay

namespace Gateway

/-- The failure of a provider that has no client. -/
def noClient (p : Provider) : Failure :=
  .provider (ProviderFault.missingCredential p "no client registered for provider")

/-- Call a provider's client under the context, as part of the request's flow, and record the
outcome. -/
def invoke (ctx : Context) (p : Provider) (req : Request) : GatewayM (Except Failure Completion) := do
  let g ← get
  match g.registry.client? p with
  | none => return .error (noClient p)
  | some c =>
    let s := g.clock
    let (outcome, c) := c.call .flow ctx s req
    modifyRegistry (·.setClient p c)
    match outcome with
    | .never => throw .stall
    | .crashed t crash =>
      advanceTo t
      throw (.crash crash)
    | .answered t (.ok comp) =>
      advanceTo t
      modifyRegistry (·.recordSuccess p (t - s))
      return .ok comp
    | .answered t (.error e) =>
      advanceTo t
      if !e.isCancellation then modifyRegistry (·.recordFailure p)
      return .error e

/-- The response to `req` for a completion of `p` with this latency, carrying the request's
id; after a fallback it names the provider that failed first. Building it crashes when the
token counts overflow. -/
def respond (req : Request) (p : Provider) (comp : Completion) (latencyMs : Nat)
    (original : Option Provider) : Except Crash Response := do
  let r ← Response.ofCompletion p comp latencyMs
  let r := { r with requestId := req.requestId }
  return match original with
    | some o => { r with retries := 1, originalProvider := some o }
    | none => r

/-- Answer with the response for a completion of `p`, with the latency since `started`, and
store it. -/
def finish (req : Request) (p : Provider) (comp : Completion) (started : Nat)
    (original : Option Provider) : GatewayM Response := do
  let t ← now
  match respond req p comp (t - started) original with
  | .error crash => throw (.crash crash)
  | .ok r =>
    discard (storeSet req r)
    return r

/-- Recover from the failure `err` of the provider the router chose first: a failure that is
the context's own or not worth retrying is final; otherwise the router chooses a replacement and
it is called once (steps 6 and 7). -/
def recover (ctx : Context) (req : Request) (started : Nat) (original : Provider) (err : Failure) :
    GatewayM (Except Failure Response) := do
  if err.isCancellation || !err.isRetryable then return .error err
  let first ← match err.fault? with
    | some f => pure f
    | none => return .error err
  let replacement ← match ← fallback ctx original req err with
    | .ok d => pure d.provider
    | .error e =>
      if e.isCancellation then return .error e
      return .error (.exhausted [original] first)
  match ← invoke ctx replacement req with
  | .ok comp => return .ok (← finish req replacement comp started (some original))
  | .error e =>
    if e.isCancellation then return .error e
    match e.fault? with
    | some source => return .error (.exhausted [original, replacement] source)
    | none => return .error e

/-- Serve a query the store did not answer, started at `started`: check the context, route,
call the chosen provider, and recover from its failure (steps 3 to 7). -/
def serveMiss (ctx : Context) (req : Request) (started : Nat) :
    GatewayM (Except Failure Response) := do
  if let .error e ← checkNow ctx then return .error e
  let original ← match ← route ctx req with
    | .ok d => pure d.provider
    | .error e => return .error e
  match ← invoke ctx original req with
  | .ok comp => return .ok (← finish req original comp started none)
  | .error err => recover ctx req started original err

/-- Serve one query under a context. -/
def handleQuery (ctx : Context) (req : Request) : GatewayM (Except Failure Response) := do
  let started ← now
  if let .error e ← checkNow ctx then return .error e
  if let .ok (some hit) ← storeGet req then
    return .ok { hit with cached := true, latencyMs := (← now) - started,
                          requestId := req.requestId }
  serveMiss ctx req started

end Gateway

end QueryRelay
