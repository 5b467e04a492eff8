import QueryRelay.Provider
import QueryRelay.TaskType
import QueryRelay.Failure

/-!
# Settings

Everything the gateway can be configured with, by section: the server, rate limiting, the
response cache, the router, retries, fan-out, the providers and logging. Every section and
every field has a default, so any part of the settings may be left out (`Settings.decode`
reads each section as a record whose missing fields take the section's defaults).

The router's *affinity* table says which provider is presumed best at each task type. A table
that is given replaces the default table as a whole; its keys may use the task types' aliases,
and of two keys for the same task type the later one wins.
-/

namespace QueryRelay

/-- Where the server listens and how it limits requests. -/
structure ServerSettings where
  host : String := "0.0.0.0"
  port : Nat := 8080
  requestTimeoutMs : Nat := 30000
  maxQueryLength : Nat := 8000
  deriving Repr, Inhabited

/-- Per-client request limits. -/
structure RateLimitSettings where
  enabled : Bool := true
  requestsPerMinute : Nat := 120
  burst : Nat := 30
  clientRetentionSecs : Nat := 86400
  cleanupIntervalSecs : Nat := 600
  deriving Repr, Inhabited

/-- The response cache. -/
structure CacheSettings where
  enabled : Bool := true
  ttlSecs : Nat := 3600
  maxItems : Nat := 10000
  cleanupIntervalSecs : Nat := 300
  redisUrl : Option String := none
  deriving Repr, Inhabited

/-- Which provider is presumed best at a task type: each task type at most once, in the fixed
task order. -/
abbrev Affinity := List (TaskType × Provider)

namespace Affinity

/-- The provider for a task type, if the table names one. -/
def lookup (a : Affinity) (t : TaskType) : Option Provider :=
  (a.find? (fun e => e.1 == t)).map Prod.snd

/-- Set a task type's provider, keeping the table in task order. -/
def set (t : TaskType) (p : Provider) : Affinity → Affinity
  | [] => [(t, p)]
  | (u, q) :: rest =>
    if t.rank < u.rank then (t, p) :: (u, q) :: rest
    else if t = u then (t, p) :: rest
    else (u, q) :: set t p rest

/-- The table built from entries in order; a later entry for a task type wins. -/
def ofEntries (es : List (TaskType × Provider)) : Affinity :=
  es.foldl (fun acc e => set e.1 e.2 acc) []

/-- The default table. -/
def standard : Affinity :=
  [(.generation, .openai), (.summarization, .claude), (.sentiment, .gemini),
   (.questionAnswering, .mistral)]

end Affinity

/-- How providers are chosen. -/
structure RouterSettings where
  availabilityTtlSecs : Nat := 300
  /-- Turns off the automatic refresh of availability. -/
  testMode : Bool := false
  taskAffinity : Affinity := Affinity.standard
  deriving Repr, Inhabited

/-- Retries with exponential backoff. -/
structure RetrySettings where
  maxRetries : Nat := 3
  initialBackoffMs : Nat := 100
  maxBackoffMs : Nat := 5000
  factor : Float := 2.0
  /-- The fraction by which a wait may be perturbed either way. -/
  jitter : Float := 0.2
  deriving Repr, Inhabited

/-- Fan-out to several providers at once. -/
structure FanoutSettings where
  timeoutMs : Nat := 30000
  deriving Repr, Inhabited

/-- One provider's entry. -/
structure ProviderSettings where
  enabled : Bool := true
  model : String
  systemPrompt : Option String := none
  deriving Repr, Inhabited

/-- Logging. -/
structure LoggingSettings where
  json : Bool := false
  deriving Repr, Inhabited

/-- All settings of the gateway. -/
structure Settings where
  server : ServerSettings := {}
  rateLimit : RateLimitSettings := {}
  cache : CacheSettings := {}
  router : RouterSettings := {}
  retry : RetrySettings := {}
  fanout : FanoutSettings := {}
  /-- Each provider at most once, in the fixed provider order. -/
  providers : List (Provider × ProviderSettings) := []
  logging : LoggingSettings := {}
  deriving Repr, Inhabited

namespace Settings

open Schema in
/-- Read the server section. -/
def decodeServer : Decoder ServerSettings :=
  let d : ServerSettings := {}
  Decoder.record "struct ServerConfig" ["host", "port", "request_timeout_ms", "max_query_length"]
    fun r => do
      let host ← r.withDefault "host" Decoder.string d.host
      let port ← r.withDefault "port" Decoder.u16 d.port
      let timeout ← r.withDefault "request_timeout_ms" Decoder.u64 d.requestTimeoutMs
      let maxLen ← r.withDefault "max_query_length" Decoder.usize d.maxQueryLength
      pure ⟨host, port, timeout, maxLen⟩

open Schema in
/-- Read the rate-limit section. -/
def decodeRateLimit : Decoder RateLimitSettings :=
  let d : RateLimitSettings := {}
  Decoder.record "struct RateLimitConfig"
    ["enabled", "requests_per_minute", "burst", "client_retention_secs", "cleanup_interval_secs"]
    fun r => do
      let enabled ← r.withDefault "enabled" Decoder.bool d.enabled
      let rpm ← r.withDefault "requests_per_minute" Decoder.u32 d.requestsPerMinute
      let burst ← r.withDefault "burst" Decoder.u32 d.burst
      let retention ← r.withDefault "client_retention_secs" Decoder.u64 d.clientRetentionSecs
      let cleanup ← r.withDefault "cleanup_interval_secs" Decoder.u64 d.cleanupIntervalSecs
      pure ⟨enabled, rpm, burst, retention, cleanup⟩

open Schema in
/-- Read the cache section. -/
def decodeCache : Decoder CacheSettings :=
  let d : CacheSettings := {}
  Decoder.record "struct CacheConfig"
    ["enabled", "ttl_secs", "max_items", "cleanup_interval_secs", "redis_url"]
    fun r => do
      let enabled ← r.withDefault "enabled" Decoder.bool d.enabled
      let ttl ← r.withDefault "ttl_secs" Decoder.u64 d.ttlSecs
      let maxItems ← r.withDefault "max_items" Decoder.usize d.maxItems
      let cleanup ← r.withDefault "cleanup_interval_secs" Decoder.u64 d.cleanupIntervalSecs
      let redis ← r.withDefault "redis_url" (Decoder.option Decoder.string) d.redisUrl
      pure ⟨enabled, ttl, maxItems, cleanup, redis⟩

open Schema in
/-- Read an affinity table: task types (aliases allowed) to providers. -/
def decodeAffinity : Decoder Affinity := fun j => do
  let es ← Decoder.entries (Decoder.spelled TaskType.spellings) Provider.decode j
  pure (Affinity.ofEntries es)

open Schema in
/-- Read the router section. -/
def decodeRouter : Decoder RouterSettings :=
  let d : RouterSettings := {}
  Decoder.record "struct RouterConfig" ["availability_ttl_secs", "test_mode", "task_affinity"]
    fun r => do
      let ttl ← r.withDefault "availability_ttl_secs" Decoder.u64 d.availabilityTtlSecs
      let testMode ← r.withDefault "test_mode" Decoder.bool d.testMode
      let affinity ← r.withDefault "task_affinity" decodeAffinity d.taskAffinity
      pure ⟨ttl, testMode, affinity⟩

open Schema in
/-- Read the retry section. -/
def decodeRetry : Decoder RetrySettings :=
  let d : RetrySettings := {}
  Decoder.record "struct RetryConfig"
    ["max_retries", "initial_backoff_ms", "max_backoff_ms", "factor", "jitter"]
    fun r => do
      let maxRetries ← r.withDefault "max_retries" Decoder.u32 d.maxRetries
      let initial ← r.withDefault "initial_backoff_ms" Decoder.u64 d.initialBackoffMs
      let maxBackoff ← r.withDefault "max_backoff_ms" Decoder.u64 d.maxBackoffMs
      let factor ← r.withDefault "factor" Decoder.float d.factor
      let jitter ← r.withDefault "jitter" Decoder.float d.jitter
      pure ⟨maxRetries, initial, maxBackoff, factor, jitter⟩

open Schema in
/-- Read the fan-out section. -/
def decodeFanout : Decoder FanoutSettings :=
  let d : FanoutSettings := {}
  Decoder.record "struct ParallelConfig" ["timeout_ms"] fun r => do
    let t ← r.withDefault "timeout_ms" Decoder.u64 d.timeoutMs
    pure ⟨t⟩

open Schema in
/-- Read one provider's entry: the model is required. -/
def decodeProvider : Decoder ProviderSettings :=
  Decoder.record "struct ProviderSettings" ["enabled", "model", "system_prompt"] fun r => do
    let enabled ← r.withDefault "enabled" Decoder.bool true
    let model ← r.required "model" Decoder.string
    let prompt ← r.withDefault "system_prompt" (Decoder.option Decoder.string) none
    pure ⟨enabled, model, prompt⟩

/-- Put a provider's entry into a list kept in provider order, replacing an earlier one. -/
def setProvider (p : Provider) (s : ProviderSettings) :
    List (Provider × ProviderSettings) → List (Provider × ProviderSettings)
  | [] => [(p, s)]
  | (q, t) :: rest =>
    if p.rank < q.rank then (p, s) :: (q, t) :: rest
    else if p = q then (p, s) :: rest
    else (q, t) :: setProvider p s rest

open Schema in
/-- Read the providers section: a map from provider to entry. -/
def decodeProviders : Decoder (List (Provider × ProviderSettings)) := fun j => do
  let es ← Decoder.entries (Decoder.spelled Provider.spellings) decodeProvider j
  pure (es.foldl (fun acc e => setProvider e.1 e.2 acc) [])

open Schema in
/-- Read the logging section. -/
def decodeLogging : Decoder LoggingSettings :=
  Decoder.record "struct LoggingConfig" ["json"] fun r => do
    let json ← r.withDefault "json" Decoder.bool false
    pure ⟨json⟩

open Schema in
/-- Read all settings; every section may be left out. -/
def decode : Decoder Settings :=
  let d : Settings := {}
  Decoder.record "struct AppConfig"
    ["server", "rate_limit", "cache", "router", "retry", "parallel", "providers", "logging"]
    fun r => do
      let server ← r.withDefault "server" decodeServer d.server
      let rateLimit ← r.withDefault "rate_limit" decodeRateLimit d.rateLimit
      let cache ← r.withDefault "cache" decodeCache d.cache
      let router ← r.withDefault "router" decodeRouter d.router
      let retry ← r.withDefault "retry" decodeRetry d.retry
      let fanout ← r.withDefault "parallel" decodeFanout d.fanout
      let providers ← r.withDefault "providers" decodeProviders d.providers
      let logging ← r.withDefault "logging" decodeLogging d.logging
      pure ⟨server, rateLimit, cache, router, retry, fanout, providers, logging⟩

/-- The enabled providers with their entries, in provider order. -/
def enabledProviders (s : Settings) : List (Provider × ProviderSettings) :=
  s.providers.filter (fun e => e.2.enabled)

end Settings

end QueryRelay
