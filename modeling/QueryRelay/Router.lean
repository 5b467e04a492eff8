import QueryRelay.Availability
import QueryRelay.Settings
import QueryRelay.Query.Request
import QueryRelay.Random.ChaCha

/-!
# Choosing a provider

The router keeps which providers are up (`UpMap`) and chooses a provider for each request.

## A fresh request

Over `L`, the providers up in provider order, a request goes

1. to the provider it asks for, if that one is in `L` (`userPreference`);
2. else to its task type's preferred provider, if the affinity table names one in `L`
   (`taskAffinity`);
3. else to a uniform random pick from `L` (`random`), the only stage that draws from the
   random stream;
4. and with `L` empty it fails: no provider is available (`unavailable`, no provider named).

## A replacement

After a failure worth retrying, the candidates are `L` without the provider that failed. With
none the replacement fails: no fallback is available. Otherwise the request's own preference
is taken when it is a candidate, and a random candidate otherwise.

## Freshness

A router refreshes its map by probing the providers (see `Gateway.refresh`); the map is
*stale* before the first completed refresh and once the time-to-live has passed since the
last one. Only a router with automatic refresh refreshes a stale map on its own.
-/

namespace QueryRelay

/-- The router's state. -/
structure Router where
  up : UpMap := .empty
  /-- The instant the last complete refresh finished. -/
  lastRefresh : Option Nat := none
  ttlSecs : Nat := 300
  autoRefresh : Bool := true
  probeTimeoutMs : Nat := 5000
  affinity : Affinity := Affinity.standard
  rng : Random.Rng
  deriving Inhabited

namespace Router

/-- A router from its settings and a seed for its random stream. -/
def ofSettings (s : RouterSettings) (seed : Nat) : Router :=
  { ttlSecs := s.availabilityTtlSecs, autoRefresh := !s.testMode, affinity := s.taskAffinity,
    rng := Random.Rng.ofSeed seed }

/-- Whether the map is stale at `now`. -/
def isStale (r : Router) (now : Nat) : Bool :=
  match r.lastRefresh with
  | none => true
  | some t => now - t ≥ r.ttlSecs * 1000

/-- Whether the router refreshes on its own at `now`. -/
def wantsRefresh (r : Router) (now : Nat) : Bool := r.autoRefresh && r.isStale now

/-- Set one provider's flag. -/
def setAvailability (r : Router) (p : Provider) (up : Bool) : Router :=
  { r with up := r.up.set p up }

/-- The providers up, in provider order. -/
def available (r : Router) : List Provider := r.up.upList

/-- The random stage over the providers up `L`: a uniform pick, or no provider at all. -/
def chooseAtRandom (r : Router) (L : List Provider) : Except Failure RouteDecision × Router :=
  match L with
  | [] => (.error (.provider (ProviderFault.unavailable none "no providers available")), r)
  | _ =>
    let (pick, rng) := r.rng.pick L
    match pick with
    | some q => (.ok ⟨q, .random⟩, { r with rng })
    | none => (.error (.provider (ProviderFault.unavailable none "no providers available")),
        { r with rng })

/-- The stages after the caller's preference: the task type's provider, then a random one. -/
def chooseByTask (r : Router) (L : List Provider) (req : Request) :
    Except Failure RouteDecision × Router :=
  match req.taskType.bind r.affinity.lookup with
  | some q => if L.contains q then (.ok ⟨q, .taskAffinity⟩, r) else r.chooseAtRandom L
  | none => r.chooseAtRandom L

/-- Choose a provider for a fresh request among the providers up `L`. -/
def choose (r : Router) (L : List Provider) (req : Request) :
    Except Failure RouteDecision × Router :=
  match req.provider with
  | some p => if L.contains p then (.ok ⟨p, .userPreference⟩, r) else r.chooseByTask L req
  | none => r.chooseByTask L req

/-- The failure when no replacement exists for a provider. -/
def noFallback (original : Provider) : Failure :=
  .provider (ProviderFault.unavailable none
    s!"no fallback available after {original.wireName} failed")

/-- Choose a replacement for `original` among the providers up `L`. -/
def chooseFallback (r : Router) (L : List Provider) (original : Provider)
    (preferred : Option Provider) : Except Failure RouteDecision × Router :=
  let candidates := L.filter (· ≠ original)
  let random : Except Failure RouteDecision × Router :=
    let (pick, rng) := r.rng.pick candidates
    match pick with
    | some q => (.ok ⟨q, .fallback⟩, { r with rng })
    | none => (.error (.internal "empty fallback candidate set"), { r with rng })
  if candidates.isEmpty then (.error (noFallback original), r)
  else
    match preferred with
    | some p => if p ≠ original && candidates.contains p then (.ok ⟨p, .fallback⟩, r) else random
    | none => random

end Router

end QueryRelay
