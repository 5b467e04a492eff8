import QueryRelay.RateLimit.Bucket
import QueryRelay.Settings

/-!
# Global and per-client admission

A rate limiter holds one global bucket and one bucket per client, all with the same capacity
(`max(burst, 1)` tokens) and rate (`requests per minute / 60` tokens a second). A client's
bucket is made full the first time the client is seen. A client whose bucket has been idle
for at least the retention period is dropped by `cleanup` and starts over with a full bucket
when it comes back.

A limiter may instead carry a fixed decision (`deny`): then every request of a client in the
list is refused and every other one admitted, buckets play no part, and the global check asks
for the client with the empty name.

Clients are independent: a client's decisions depend only on its own requests and on the
cleanups (`RateLimiter.allowClient`).
-/

namespace QueryRelay

/-- Global and per-client token buckets. -/
structure RateLimiter where
  capacity : Float
  ratePerSec : Float
  /-- How long an idle client is kept, in milliseconds. -/
  retentionMs : Nat
  global : TokenBucket
  /-- Client buckets in the order the clients were first seen, each client once. -/
  clients : List (String × TokenBucket)
  /-- A fixed decision replacing the buckets: the refused clients. -/
  deny : Option (List String) := none
  deriving Inhabited

namespace RateLimiter

/-- A limiter made at `now` admitting `rpm` requests a minute with bursts of `burst`, keeping
idle clients `retentionSecs` seconds. -/
def create (rpm burst retentionSecs : Nat) (now : Nat) : RateLimiter :=
  let capacity := Decimal.ofNatNearest (max burst 1)
  let rate := Decimal.ofNatNearest rpm / 60.0
  ⟨capacity, rate, retentionSecs * 1000, TokenBucket.full capacity rate now, [], none⟩

/-- A limiter from the rate-limit settings (whether limiting is enabled plays no part). -/
def ofSettings (s : RateLimitSettings) (now : Nat) : RateLimiter :=
  create s.requestsPerMinute s.burst s.clientRetentionSecs now

/-- Admit one request against the global bucket. -/
def allow (l : RateLimiter) (now : Nat) : Bool × RateLimiter :=
  match l.deny with
  | some refused => (!refused.contains "", l)
  | none =>
    let (ok, g) := l.global.tryAcquire now
    (ok, { l with global := g })

/-- Take a token from a client's bucket in a list, making the bucket if the client is new. -/
def acquireIn (capacity rate : Float) (id : String) (now : Nat) :
    List (String × TokenBucket) → Bool × List (String × TokenBucket)
  | [] =>
    let (ok, b) := (TokenBucket.full capacity rate now).tryAcquire now
    (ok, [(id, b)])
  | (k, b) :: rest =>
    if k = id then
      let (ok, b') := b.tryAcquire now
      (ok, (k, b') :: rest)
    else
      let (ok, rest') := acquireIn capacity rate id now rest
      (ok, (k, b) :: rest')

/-- Admit one request of a client. -/
def allowClient (l : RateLimiter) (id : String) (now : Nat) : Bool × RateLimiter :=
  match l.deny with
  | some refused => (!refused.contains id, l)
  | none =>
    let (ok, cs) := acquireIn l.capacity l.ratePerSec id now l.clients
    (ok, { l with clients := cs })

/-- The number of clients with a bucket. -/
def clientCount (l : RateLimiter) : Nat := l.clients.length

/-- Drop the clients idle for at least the retention period; how many were dropped. -/
def cleanup (l : RateLimiter) (now : Nat) : Nat × RateLimiter :=
  let kept := l.clients.filter (fun e => e.2.idleFor now < l.retentionMs)
  (l.clients.length - kept.length, { l with clients := kept })

end RateLimiter

end QueryRelay
