import QueryRelay.Command.Spec
import QueryRelay.RateLimit.Limiter
import QueryRelay.RateLimit.ClientId

/-!
# Commands on admission control

`token_bucket` drives one bucket through acquisitions, reads and the passing of time;
`rate_limiter` drives a limiter the same way; `client_id` names the client of a request from
its headers and peer address.
-/

namespace QueryRelay

namespace Command

/-- A number field as a double. -/
def needFloat (input : Json) (key : String) : Except Halt Float :=
  match arg input key with
  | some (.num (.unsigned n)) => .ok (Decimal.ofNatNearest n)
  | some (.num (.negative n)) => .ok (-(Decimal.ofNatNearest n.natAbs))
  | some (.num (.double x)) => .ok x
  | _ => bad s!"field {key} must be a number"

/-- A double as an answer. -/
def floatJson (x : Float) : Json := .num (.double x)

/-- Drive a token bucket. -/
def tokenBucketCommand (input : Json) : Reply := do
  let capacity ← needFloat input "capacity"
  let rate ← needFloat input "rate_per_sec"
  let steps ← optList input "steps"
  let run := steps.foldlM (fun (st : TokenBucket × Nat × List Json) step => do
    let (b, now, out) := st
    match ← needString step "op" with
    | "try_acquire" =>
      let (ok, b) := b.tryAcquire now
      pure (b, now, out ++ [Json.bool ok])
    | "available" =>
      let (x, b) := b.available now
      pure (b, now, out ++ [floatJson x])
    | "advance" =>
      let ms := (← optNat step "ms").getD 0
      pure (b, now + ms, out ++ [Json.null])
    | other => bad s!"unknown step {other}") (TokenBucket.full capacity rate 0, 0, [])
  let (_, _, out) ← run
  pure (Json.object [("steps", Json.arr out)])

/-- Build the limiter a command describes, at instant `now`. -/
def readLimiter (input : Json) (now : Nat) : Except Halt RateLimiter := do
  let base ← match arg input "config" with
    | some c => do
      let s ← decoded (Settings.decodeRateLimit c)
      pure (RateLimiter.ofSettings s now)
    | none => do
      let rpm := (← optNat input "requests_per_minute").getD 0
      let burst := (← optNat input "burst").getD 0
      let retention := (← optNat input "retention_secs").getD 86400
      pure (RateLimiter.create rpm burst retention now)
  match arg input "deny" with
  | some (.arr ids) => do
    let ids ← ids.mapM (fun j => match j with
      | .str s => pure s
      | _ => bad "deny lists client names")
    pure { base with deny := some ids }
  | _ => pure base

/-- Drive a rate limiter. -/
def rateLimiterCommand (input : Json) : Reply := do
  let limiter ← readLimiter input 0
  let steps ← optList input "steps"
  let run := steps.foldlM (fun (st : RateLimiter × Nat × List Json) step => do
    let (l, now, out) := st
    match ← needString step "op" with
    | "allow" =>
      let (ok, l) := l.allow now
      pure (l, now, out ++ [Json.bool ok])
    | "allow_client" =>
      let id ← needString step "client"
      let (ok, l) := l.allowClient id now
      pure (l, now, out ++ [Json.bool ok])
    | "cleanup" =>
      let (n, l) := l.cleanup now
      pure (l, now, out ++ [Json.nat n])
    | "client_count" => pure (l, now, out ++ [Json.nat l.clientCount])
    | "advance" =>
      let ms := (← optNat step "ms").getD 0
      pure (l, now + ms, out ++ [Json.null])
    | other => bad s!"unknown step {other}") (limiter, 0, [])
  let (_, _, out) ← run
  pure (Json.object [("steps", Json.arr out)])

/-- Read request headers given as name–value pairs. -/
def readHeaders (pairs : List Json) : Except Halt Http.Headers := do
  let ps ← pairs.mapM (fun p => match p with
    | .arr [.str n, .str v] => pure (n, v)
    | _ => bad "a header is a pair of strings")
  match Http.Headers.build ps with
  | .ok h => pure h
  | .error .invalidName => .error .invalidHeaderName
  | .error .invalidValue => .error .invalidHeaderValue

/-- Read a peer socket address. -/
def readPeer (input : Json) : Except Halt (Option Net.IpAddress) := do
  match ← optString input "peer" with
  | none => pure none
  | some s =>
    match Net.parseSocketAddress s with
    | some ip => pure (some ip)
    | none => bad s!"invalid socket address {s}"

/-- Name the client of a request. -/
def clientIdCommand (input : Json) : Reply := do
  let h ← readHeaders (← optList input "headers")
  let peer ← readPeer input
  pure (Json.object [("client_id", Json.str (Http.clientId h peer))])

end Command

end QueryRelay
