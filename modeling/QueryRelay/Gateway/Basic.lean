import QueryRelay.Registry
import QueryRelay.Router
import QueryRelay.Cache.Store
import QueryRelay.RateLimit.Limiter

/-!
# The gateway and its clock

A `Gateway` holds everything that lives across requests: the virtual clock, the registry of
clients, the router, the response store, the default fan-out timeout, the server settings, an
optional rate limiter and the server's shutdown, which cancels every request in flight.
Operations run in `GatewayM`: they read and change the gateway, and may *stop* abnormally, by a
crash or by waiting for something that never happens. A stop keeps every change made before it.

## Refreshing availability

A refresh starting at `s` first marks every provider without a client as down, then probes
every client at once (`Backend.probe`). Each answer is recorded as it arrives; when the last
one is in, the refresh is complete and its instant is stamped as the last refresh.

A refresh made for a request runs under the request's context, as part of the request's own
flow (`Context.waitFrom`), and may be cut short. Then the answers that arrived before the end
are kept (at the instant of a cancellation, the answers due then arrive first; at the instant
of the deadline, the deadline comes first), the others are lost, and the last refresh is not
stamped, so the map stays stale.
-/

namespace QueryRelay

/-- Why an operation stopped abnormally. -/
inductive Stop where
  /-- The program crashed. -/
  | crash (c : Crash)
  /-- It waits for something that never happens. -/
  | stall
  deriving Inhabited

/-- The gateway's state. -/
structure Gateway where
  /-- The virtual time in milliseconds. -/
  clock : Nat := 0
  registry : Registry := .empty
  router : Router
  store : ResponseStore
  /-- The fan-out timeout when a request names none. -/
  fanoutTimeoutMs : Nat := 30000
  server : ServerSettings := {}
  limiter : Option RateLimiter := none
  /-- Request ids handed out so far. -/
  issuedIds : Nat := 0
  /-- The wall-clock time, in milliseconds since 1970, at which the virtual clock read zero. -/
  wallOriginMs : Nat := 0
  /-- When the server is shut down; every request's context is cancelled with it. -/
  shutdown : Cancellation := .never
  deriving Inhabited

/-- Operations on the gateway that may stop abnormally. -/
abbrev GatewayM := ExceptT Stop (StateM Gateway)

namespace Gateway

/-- The current instant. -/
def now : GatewayM Nat := return (← get).clock

/-- Move the clock on to `t` (it never goes back). -/
def advanceTo (t : Nat) : GatewayM Unit :=
  modify fun g => { g with clock := max g.clock t }

/-- Sleep for `ms` milliseconds. -/
def sleep (ms : Nat) : GatewayM Unit := do advanceTo ((← now) + ms)

/-- Change the registry. -/
def modifyRegistry (f : Registry → Registry) : GatewayM Unit :=
  modify fun g => { g with registry := f g.registry }

/-- Change the router. -/
def modifyRouter (f : Router → Router) : GatewayM Unit :=
  modify fun g => { g with router := f g.router }

/-- The context's failure now, if it is done. -/
def checkNow (ctx : Context) : GatewayM (Except Failure Unit) := do
  return ctx.check (← now)

/-- Probe every client at once from `s`: each provider's answer and its instant, in provider
order, and the registry after the probes were counted. -/
def probeAll (reg : Registry) (timeoutMs s : Nat) : List (Provider × Nat × Bool) × Registry :=
  (reg.entries.map (fun e => (e.1, (e.2.client.probe timeoutMs s).1)),
    reg.mapClients (fun c => (c.probe timeoutMs s).2))

/-- Whether an answer due at `a` arrived in a wait that ended at `t` with `e`. -/
def arrivedBefore (a t : Nat) (e : Failure) : Bool :=
  a < t || (a == t && e == .cancelled)

/-- Refresh availability from now; with a context, under it (the context was checked). -/
def refreshFrom (ctx : Option Context) : GatewayM (Except Failure Unit) := do
  let g ← get
  let s := g.clock
  let registered := g.registry.providers
  let router := Provider.all.foldl
    (fun r p => if registered.contains p then r else r.setAvailability p false) g.router
  let (answers, registry) := probeAll g.registry router.probeTimeoutMs s
  let finish := answers.foldl (fun m a => max m a.2.1) s
  let record (keep : Nat → Bool) (r : Router) : Router :=
    answers.foldl (fun r a => if keep a.2.1 then r.setAvailability a.1 a.2.2 else r) r
  let ending : WaitEnd := match ctx with
    | some c => c.waitFrom s (some finish)
    | none => .done finish
  match ending with
  | .stopped t e =>
    set { g with registry, router := record (fun a => arrivedBefore a t e) router, clock := t }
    return .error e
  | _ =>
    let router := { record (fun _ => true) router with lastRefresh := some finish }
    set { g with registry, router, clock := finish }
    return .ok ()

/-- Refresh unconditionally, to completion. -/
def refresh : GatewayM Unit := discard (refreshFrom none)

/-- Refresh if the router refreshes on its own and its map is stale, to completion. -/
def refreshIfStale : GatewayM Unit := do
  let g ← get
  if g.router.wantsRefresh g.clock then refresh

/-- Check the context, then refresh under it if the router wants to. -/
def refreshWithin (ctx : Context) : GatewayM (Except Failure Unit) := do
  match ← checkNow ctx with
  | .error e => return .error e
  | .ok () =>
    let g ← get
    if g.router.wantsRefresh g.clock then refreshFrom (some ctx) else return .ok ()

/-- The providers up after a refresh under the context, if one is due. -/
def availableWithin (ctx : Context) : GatewayM (Except Failure (List Provider)) := do
  match ← refreshWithin ctx with
  | .error e => return .error e
  | .ok () => return .ok (← get).router.available

/-- Choose a provider for a fresh request (see `Router.choose`), after the context's check and
a refresh if one is due. -/
def route (ctx : Context) (req : Request) : GatewayM (Except Failure RouteDecision) := do
  if let .error e ← checkNow ctx then return .error e
  match ← availableWithin ctx with
  | .error e => return .error e
  | .ok up =>
    if let .error e ← checkNow ctx then return .error e
    let g ← get
    let (d, router) := g.router.choose up req
    set { g with router }
    return d

/-- Choose a replacement for `original` after the failure `err` (see `Router.chooseFallback`).
A failure not worth retrying is handed back as it is, before anything else. -/
def fallback (ctx : Context) (original : Provider) (req : Request) (err : Failure) :
    GatewayM (Except Failure RouteDecision) := do
  if !err.isRetryable then return .error err
  if let .error e ← checkNow ctx then return .error e
  match ← availableWithin ctx with
  | .error e => return .error e
  | .ok up =>
    let g ← get
    let (d, router) := g.router.chooseFallback up original req.provider
    set { g with router }
    return d

/-- Look a request up in the store now. -/
def storeGet (req : Request) : GatewayM (Except Failure (Option Response)) := do
  let g ← get
  let (r, store) := g.store.get req g.clock
  set { g with store }
  return r

/-- Store a request's response now. -/
def storeSet (req : Request) (r : Response) : GatewayM (Except Failure Unit) := do
  let g ← get
  let (res, store) := g.store.set req r g.clock
  set { g with store }
  match res with
  | .error c => throw (.crash c)
  | .ok x => return x

/-- Drop every stored response. -/
def storeFlush : GatewayM (Except Failure Unit) := do
  let g ← get
  let (r, store) := g.store.flush
  set { g with store }
  return r

end Gateway

end QueryRelay
