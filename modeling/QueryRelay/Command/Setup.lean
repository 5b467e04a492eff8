import QueryRelay.Command.Spec
import QueryRelay.Backend.Hosted
import QueryRelay.Query.Response

/-!
# Commands on settings and hosted clients

`app_config` reads the gateway's settings and reports every resolved field, the durations in
milliseconds, the enabled providers and the hosted clients the settings ask for.
`rig_client` makes one hosted client and tries one call with it.
-/

namespace QueryRelay

namespace Command

/-- A duration of whole seconds in milliseconds, as a 64-bit count (wrapping). -/
def secondsAsMillis (secs : Nat) : Nat := secs * 1000 % Nat.pow 2 64

/-- A double as an answer. -/
def doubleJson (x : Float) : Json := .num (.double x)

/-- Every resolved field of the settings. -/
def settingsAnswer (s : Settings) : Json :=
  let server := Json.object [("host", Json.str s.server.host), ("port", Json.nat s.server.port),
    ("request_timeout_ms", Json.nat s.server.requestTimeoutMs),
    ("max_query_length", Json.nat s.server.maxQueryLength),
    ("request_timeout_as_ms", Json.nat s.server.requestTimeoutMs)]
  let gateway := Json.object [("host", Json.str s.server.host), ("port", Json.nat s.server.port),
    ("request_timeout_ms", Json.nat s.server.requestTimeoutMs),
    ("max_query_length", Json.nat s.server.maxQueryLength),
    ("enable_cors", Json.bool true), ("enable_tracing", Json.bool true)]
  let rl := s.rateLimit
  let rateLimit := Json.object [("enabled", Json.bool rl.enabled),
    ("requests_per_minute", Json.nat rl.requestsPerMinute), ("burst", Json.nat rl.burst),
    ("client_retention_secs", Json.nat rl.clientRetentionSecs),
    ("cleanup_interval_secs", Json.nat rl.cleanupIntervalSecs)]
  let c := s.cache
  let cache := Json.object [("enabled", Json.bool c.enabled), ("ttl_secs", Json.nat c.ttlSecs),
    ("max_items", Json.nat c.maxItems), ("cleanup_interval_secs", Json.nat c.cleanupIntervalSecs),
    ("redis_url", Json.opt Json.str c.redisUrl), ("ttl_as_ms", Json.nat (secondsAsMillis c.ttlSecs)),
    ("cleanup_interval_as_ms", Json.nat (secondsAsMillis c.cleanupIntervalSecs))]
  let r := s.router
  let router := Json.object [("availability_ttl_secs", Json.nat r.availabilityTtlSecs),
    ("test_mode", Json.bool r.testMode),
    ("task_affinity", Json.object (r.taskAffinity.map (fun e => (e.1.wireName, e.2.toJson)))),
    ("availability_ttl_as_ms", Json.nat (secondsAsMillis r.availabilityTtlSecs))]
  let rt := s.retry
  let retry := Json.object [("max_retries", Json.nat rt.maxRetries),
    ("initial_backoff_ms", Json.nat rt.initialBackoffMs), ("max_backoff_ms", Json.nat rt.maxBackoffMs),
    ("factor", doubleJson rt.factor), ("jitter", doubleJson rt.jitter)]
  let parallel := Json.object [("timeout_ms", Json.nat s.fanout.timeoutMs),
    ("timeout_as_ms", Json.nat s.fanout.timeoutMs)]
  let providers := Json.object (s.providers.map (fun e => (e.1.wireName, Json.object [
    ("enabled", Json.bool e.2.enabled), ("model", Json.str e.2.model),
    ("system_prompt", Json.opt Json.str e.2.systemPrompt)])))
  let registry := match s.hostedClients with
    | .ok cs => Json.arr (cs.map (fun c => c.provider.toJson))
    | .error e => failureAnswer e
  Json.object [("server", server), ("gateway", gateway), ("rate_limit", rateLimit),
    ("cache", cache), ("router", router), ("retry", retry), ("parallel", parallel),
    ("providers", providers), ("logging", Json.object [("json", Json.bool s.logging.json)]),
    ("enabled_providers", Json.arr (s.enabledProviders.map (fun e => e.1.toJson))),
    ("registry", registry)]

/-- Read and report settings. -/
def appConfigCommand (input : Json) : Reply := do
  let s ← decoded (Settings.decode ((arg input "config").getD .null))
  pure (settingsAnswer s)

/-- Make a hosted client and try one call. -/
def hostedClientCommand (input : Json) : Reply := do
  let p ← match arg input "provider" with
    | some j => needProvider j
    | none => bad "missing provider"
  let model := (← optString input "model").getD ""
  let prompt ← optString input "system_prompt"
  let retry ← match arg input "retry" with
    | some j => decoded (Settings.decodeRetry j)
    | none => pure RetrySettings.never
  let ctx ← readContext (arg input "ctx") 0
  let text := (← optString input "query").getD "hello"
  let modelVersion ← optString input "model_version"
  let supports := Json.bool p.hasHostedClient
  match HostedClient.create p model prompt with
  | .error e => pure (Json.object [("supports", supports), ("new", failureAnswer e)])
  | .ok c =>
    let c := { c with retry := retry }
    -- the process has no API keys
    let env : HostedEnv := {}
    let answer := match (c.query env ctx 0 text modelVersion).1.result with
      | .error e => failureAnswer e
      | .ok a => (Completion.ofAnswer text a).toJson
    pure (Json.object [("supports", supports), ("identity", p.toJson),
      ("config", Json.object [("provider", p.toJson), ("model", Json.str c.model),
        ("system_prompt", Json.opt Json.str c.systemPrompt)]),
      ("available", Json.bool (c.hasKey env)),
      ("query", answer)])

end Command

end QueryRelay
