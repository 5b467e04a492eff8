import QueryRelay.Command.Limits
import QueryRelay.Http.Server

/-!
# Scenarios

A scenario builds one gateway from a description and runs a list of steps against it, in
order, on one virtual clock that starts at zero. Each step has an answer; a step that cannot
be read, fails or crashes answers with its halt, and the next step runs on the gateway as the
failed step left it. A gateway that cannot be built answers with that failure alone.

The description names the clients (scripted or hosted, registered in order, a later one
replacing an earlier one), the router's settings, seed and probe timeout, initial
availability flags, the response store, the default fan-out timeout, the server settings and
an optional rate limiter.
-/

namespace QueryRelay

namespace Command

/-- A scripted cue from its description. -/
def readCue (j : Json) : Except Halt Cue :=
  match j with
  | .str "hang" => pure .hang
  | .str "panic" => pure .crash
  | .obj _ =>
    match arg j "text", arg j "fail" with
    | some (.str t), _ => pure (.text t)
    | _, some spec => Cue.fail <$> readFault spec
    | _, _ => bad "a reply is text, fail, hang or panic"
  | _ => bad "a reply is text, fail, hang or panic"

/-- A client from its description. -/
def readClient (spec : Json) : Except Halt Backend := do
  let p ← match arg spec "provider" with
    | some j => needProvider j
    | none => bad "a client names its provider"
  match arg spec "rig" with
  | some h => do
    let model ← needString h "model"
    let prompt ← optString h "system_prompt"
    (Backend.hosted · {}) <$> gateway (HostedClient.create p model prompt)
  | none => do
    let standing ← match arg spec "reply" with
      | some r => readCue r
      | none => pure (Cue.text p.wireName)
    let script ← (← optList spec "script").mapM readCue
    let delayMs ← optNat spec "delay_ms"
    let probeDelayMs ← optNat spec "probe_delay_ms"
    let available := (← optBool spec "available").getD true
    pure (.scripted { provider := p, script, standing, delayMs, probeDelayMs, available })

/-- A response store from its description; the in-memory cache by default. -/
def readStore (spec : Option Json) : Except Halt ResponseStore := do
  match spec with
  | none => pure (.memory { ttlMs := 60000, maxItems := 100 })
  | some j =>
    match (← optString j "type").getD "memory" with
    | "memory" =>
      match arg j "config" with
      | some c => do
        let s ← decoded (Settings.decodeCache c)
        pure (.memory { ttlMs := s.ttlSecs * 1000, maxItems := s.maxItems, enabled := s.enabled })
      | none => do
        let ttlMs := (← optNat j "ttl_ms").getD 60000
        let maxItems := (← optNat j "max_items").getD 100
        pure (.memory { ttlMs, maxItems })
    | "disabled" => pure (.memory MemoryCache.disabled)
    | "mock" => pure (.counting {})
    | "broken" => pure .failing
    | other => bad s!"unknown cache type {other}"

/-- Build the gateway a scenario describes. -/
def buildGateway (input : Json) : Except Halt Gateway := do
  let routerSettings ← match arg input "router" with
    | some r => decoded (Settings.decodeRouter r)
    | none => pure {}
  let server ← match arg input "server" with
    | some s => decoded (Settings.decodeServer s)
    | none => pure {}
  let clients ← (← optList input "providers").mapM readClient
  let testMode := (← optBool input "test_mode").getD false
  let seed := (← optNat input "seed").getD 0
  let probeTimeoutMs := (← optNat input "probe_timeout_ms").getD 5000
  let router := Router.ofSettings routerSettings seed
  let router := { router with probeTimeoutMs,
                              autoRefresh := router.autoRefresh && !testMode }
  let flags ← (← optList input "availability").mapM (fun j => match j with
    | .arr [p, .bool b] => do pure (← needProvider p, b)
    | _ => bad "an availability entry is a provider and a flag")
  let router := flags.foldl (fun r e => r.setAvailability e.1 e.2) router
  let store ← readStore (arg input "cache")
  let fanoutTimeoutMs := (← optNat input "parallel_timeout_ms").getD 30000
  let limiter ← match arg input "rate_limit" with
    | some l => some <$> readLimiter l 0
    | none => pure none
  let registry := clients.foldl Registry.register .empty
  pure { registry, router, store, fanoutTimeoutMs, server, limiter }

/-- The answer for a router's map. -/
def snapshotAnswer (r : Router) : Json :=
  Json.object [("providers", r.up.toJson), ("refreshed", .bool r.lastRefresh.isSome),
    ("ttl_secs", Json.nat r.ttlSecs)]

/-- A count per scripted client. -/
def countsAnswer (g : Registry) (count : Backend → Option Nat) : Json :=
  Json.object (g.entries.filterMap (fun e => (count e.2.client).map (fun n => (e.1.wireName, Json.nat n))))

/-- Whether a text has the shape of a UUID in lowercase: 8, 4, 4, 4 and 12 hexadecimal digits
joined by dashes. -/
def isLowerUuid (s : String) : Bool :=
  let groups := s.splitOn "-"
  groups.map String.length == [8, 4, 4, 4, 12] &&
    groups.all (fun g => g.all (fun c => c.isDigit || ('a' ≤ c && c ≤ 'f')))

mutual

/-- Hide what differs from run to run in an answer body: request ids shaped like UUIDs and
refresh times. -/
def maskBody : Json → Json
  | .obj fields => .obj (maskFields fields)
  | .arr items => .arr (maskItems items)
  | j => j

/-- Mask the fields of an object. -/
def maskFields : List (String × Json) → List (String × Json)
  | [] => []
  | (k, v) :: rest =>
    let v' := match k, v with
      | "request_id", .str i => if isLowerUuid i then .str "<generated-uuid>" else .str i
      | "refreshed_at", .null => .null
      | "refreshed_at", _ => .str "<timestamp>"
      | _, v => maskBody v
    (k, v') :: maskFields rest

/-- Mask the items of an array. -/
def maskItems : List Json → List Json
  | [] => []
  | v :: rest => maskBody v :: maskItems rest

end

/-- An answer body as JSON: nothing is `null`, text that is JSON is read, other text is kept
under `text`. -/
def bodyAnswer : HttpBody → Json
  | .empty => .null
  | .json j => maskBody j
  | .text t =>
    match Json.read t with
    | .ok j => maskBody j
    | .error _ => Json.object [("text", .str t)]

/-- The HTTP request a step describes. A `body` is sent as compact JSON and declared as JSON
when the step gives no headers; a `raw_body` is sent as it is. -/
def readHttpRequest (step : Json) : Except Halt HttpRequest := do
  let method ← needString step "method"
  let target ← needString step "path"
  let raw ← optString step "raw_body"
  let body := match raw, arg step "body" with
    | some r, _ => some r
    | none, some b => some (Json.render b)
    | none, none => none
  let headers ← match arg step "headers", arg step "body" with
    | none, some _ => pure (⟨[("content-type", "application/json")]⟩ : Http.Headers)
    | _, _ => readHeaders (← optList step "headers")
  let peer ← readPeer step
  pure { method, target, headers, body := body.getD "", peer }

/-- The request of a step. -/
def stepRequest (step : Json) : Except Halt Request :=
  decoded (Request.decode ((arg step "request").getD .null))

/-- The provider a step names under `key`. -/
def stepProvider (step : Json) (key : String) : Except Halt Provider :=
  match arg step key with
  | some j => needProvider j
  | none => bad s!"missing {key}"

/-- A gateway result as an answer. -/
def answerOf {α : Type} (f : α → Json) (r : Except Failure α) : Json := failureOr f r

/-- What a step does, once its input is read. -/
def stepAction (step : Json) (now : Nat) : Except Halt (GatewayM Json) := do
  let ctx ← readContext (arg step "ctx") now
  match ← needString step "op" with
  | "set_availability" => do
    let p ← stepProvider step "provider"
    let up := (← optBool step "available").getD false
    pure (do Gateway.modifyRouter (·.setAvailability p up); pure .null)
  | "set_probe" => do
    let p ← stepProvider step "provider"
    let up := (← optBool step "available").getD false
    pure (do
      Gateway.modifyRegistry (fun g => g.modify p (fun r => { r with client := r.client.setAvailable up }))
      pure .null)
  | "advance" => do
    let ms := (← optNat step "ms").getD 0
    pure (do Gateway.sleep ms; pure .null)
  | "refresh" => pure (do Gateway.refresh; pure .null)
  | "snapshot" => pure (do Gateway.refreshIfStale; return snapshotAnswer (← get).router)
  | "current_snapshot" => pure (do return snapshotAnswer (← get).router)
  | "snapshot_within" => pure (do
      match ← Gateway.refreshWithin ctx with
      | .error e => return failureAnswer e
      | .ok () => return snapshotAnswer (← get).router)
  | "is_available" => do
    let p ← stepProvider step "provider"
    pure (do Gateway.refreshIfStale; return .bool ((← get).router.up.isUp p))
  | "registry" => pure (do
      let ps := (← get).registry.providers
      return Json.object [("providers", .arr (ps.map Provider.toJson)), ("len", Json.nat ps.length),
        ("is_empty", .bool ps.isEmpty)])
  | "stats" => pure (do return (← get).registry.statsJson)
  | "record" => do
    let p ← stepProvider step "provider"
    let ms ← optNat step "success_ms"
    pure (do
      match ms with
      | some l => Gateway.modifyRegistry (·.recordSuccess p l)
      | none => Gateway.modifyRegistry (·.recordFailure p)
      pure .null)
  | "calls" => pure (do return countsAnswer (← get).registry Backend.calls?)
  | "probe_counts" => pure (do return countsAnswer (← get).registry Backend.probes?)
  | "cache_get" => do
    let req ← stepRequest step
    pure (do
      let found ← Gateway.storeGet req
      return answerOf (fun hit => Json.object [("hit", Json.opt Response.toJson hit)]) found)
  | "cache_set" => do
    let req ← stepRequest step
    let r ← decoded (Response.decode ((arg step "response").getD .null))
    pure (do return answerOf (fun _ => Json.null) (← Gateway.storeSet req r))
  | "cache_flush" => pure (do return answerOf (fun _ => Json.null) (← Gateway.storeFlush))
  | "cache_len" => pure (do
      match (← get).store with
      | .memory c => return Json.object [("len", Json.nat c.size), ("is_empty", .bool (c.size == 0))]
      | .counting c =>
        return Json.object [("len", Json.nat c.entries.length), ("is_empty", .bool c.entries.isEmpty)]
      | .failing | .scripted _ => return namedAnswer "BadInput" "the cache has no length")
  | "cache_stats" => pure (do
      match (← get).store with
      | .memory c => return Json.object [("entries", Json.nat c.size),
          ("hits", Json.nat c.hits.toNat), ("misses", Json.nat c.misses.toNat)]
      | .counting c => return Json.object [("gets", Json.nat c.gets), ("sets", Json.nat c.sets),
          ("len", Json.nat c.entries.length)]
      | .failing | .scripted _ => return namedAnswer "BadInput" "the cache has no statistics")
  | "cache_cleanup" => pure (do
      let g ← get
      match g.store with
      | .memory c =>
        let (n, c) := c.cleanup g.clock
        set { g with store := .memory c }
        return Json.nat n
      | _ => return namedAnswer "BadInput" "the cache has no cleanup")
  | "route" => do
    let req ← stepRequest step
    pure (do return answerOf RouteDecision.toJson (← Gateway.route ctx req))
  | "fallback" => do
    let req ← stepRequest step
    let original ← stepProvider step "original"
    let err ← match arg step "error" with
      | some spec => readFailure spec
      | none => bad "missing error"
    pure (do return answerOf RouteDecision.toJson (← Gateway.fallback ctx original req err))
  | "query" => do
    let req ← stepRequest step
    pure (do return answerOf Response.toJson (← Gateway.handleQuery ctx req))
  | "parallel" => do
    let req ← stepRequest step
    let providers ← (← optList step "providers").mapM needProvider
    let timeout ← optNat step "timeout_ms"
    pure (do
      let r ← Gateway.handleFanout ctx req providers timeout
      return Json.object [("response", r.toJson), ("success_count", Json.nat r.successCount)])
  | "http" => do
    let req ← readHttpRequest step
    pure (do
      let r ← Gateway.serveHttp req
      return Json.object [("status", Json.nat r.status), ("body", bodyAnswer r.body)])
  | other => bad s!"unknown step {other}"

/-- The answer for a stop. -/
def stopAnswer : Stop → Json
  | .crash c => (Halt.crash c).toJson
  | .stall => namedAnswer "Stalled" "the step waits forever"

/-- Run one step on the gateway. -/
def runStep (g : Gateway) (step : Json) : Json × Gateway :=
  match stepAction step g.clock with
  | .error h => (h.toJson, g)
  | .ok act =>
    match act.run.run g with
    | (.ok j, g') => (j, g')
    | (.error s, g') => (stopAnswer s, g')

/-- Build a gateway and run a scenario's steps on it. -/
def scenarioCommand (input : Json) : Reply := do
  let g ← buildGateway input
  let steps ← optList input "steps"
  let (answers, _) := steps.foldl (fun (acc : List Json × Gateway) step =>
    let (a, g) := runStep acc.2 step
    (acc.1 ++ [a], g)) ([], g)
  pure (Json.object [("steps", .arr answers)])

end Command

end QueryRelay
