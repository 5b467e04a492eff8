import QueryRelay.Decimal.Ieee

/-!
# Token buckets

A token bucket admits a request when it holds at least one token and takes that token. It
refills continuously: between two instants it gains the elapsed seconds times its rate, but
never holds more than its capacity (`TokenBucket.refill`). It starts full.

Tokens, capacity and rate are binary64 values and the refill is computed in binary64; the
elapsed time is whole seconds plus the millisecond remainder in nanoseconds over `10^9`
(`Decimal.secondsOfMillis`). The bucket also remembers when it was last asked to admit a
request, so that an idle bucket can be dropped.
-/

namespace QueryRelay

/-- A continuously refilled token bucket. -/
structure TokenBucket where
  tokens : Float
  capacity : Float
  ratePerSec : Float
  /-- The instant of the last refill. -/
  lastRefill : Nat
  /-- The instant of the last admission request. -/
  lastSeen : Nat
  deriving Inhabited

namespace TokenBucket

/-- A full bucket made at `now`. -/
def full (capacity ratePerSec : Float) (now : Nat) : TokenBucket :=
  ⟨capacity, capacity, ratePerSec, now, now⟩

/-- Add what the bucket gained since its last refill, up to its capacity. -/
def refill (b : TokenBucket) (now : Nat) : TokenBucket :=
  let elapsed := Decimal.secondsOfMillis (now - b.lastRefill)
  { b with tokens := Decimal.minNum (b.tokens + elapsed * b.ratePerSec) b.capacity,
           lastRefill := now }

/-- Refill, then take one token if there is one; whether a token was taken. -/
def tryAcquire (b : TokenBucket) (now : Nat) : Bool × TokenBucket :=
  let b := { b.refill now with lastSeen := now }
  if b.tokens ≥ 1.0 then (true, { b with tokens := b.tokens - 1.0 }) else (false, b)

/-- Refill, then report the tokens held. -/
def available (b : TokenBucket) (now : Nat) : Float × TokenBucket :=
  let b := b.refill now
  (b.tokens, b)

/-- How long the bucket has not been asked to admit a request. -/
def idleFor (b : TokenBucket) (now : Nat) : Nat := now - b.lastSeen

end TokenBucket

end QueryRelay
