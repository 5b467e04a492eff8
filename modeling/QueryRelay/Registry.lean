import QueryRelay.Backend.Client
import QueryRelay.Decimal.Binary64
import QueryRelay.Keyed

/-!
# The provider registry

The registry holds at most one client per provider, kept in provider order, and beside each
client its call counters: calls finished, calls failed, and the latency of the last success.
The counters are 64-bit and wrap. Registering a client for a provider replaces the one before
and starts its counters afresh; recording for a provider with no client does nothing.

The order is a field of the registry (`Registry.ordered`): every way of building one proves it
where it builds it, and that each provider has one client at most follows from it
(`Registry.providers_nodup`).

The failure rate is the failed calls over all calls as a double, and `0.0` before any call.
-/

namespace QueryRelay

/-- Call counters of one provider. -/
structure CallStats where
  total : UInt64 := 0
  failed : UInt64 := 0
  lastLatencyMs : UInt64 := 0
  deriving DecidableEq, Repr, Inhabited

namespace CallStats

/-- Count a successful call and keep its latency. -/
def success (s : CallStats) (latencyMs : Nat) : CallStats :=
  { s with total := s.total + 1, lastLatencyMs := latencyMs.toUInt64 }

/-- Count a failed call. -/
def failure (s : CallStats) : CallStats :=
  { s with total := s.total + 1, failed := s.failed + 1 }

/-- Failed calls over all calls; `0.0` before any call. -/
def failureRate (s : CallStats) : Float :=
  if s.total = 0 then 0.0
  else Decimal.ofNatNearest s.failed.toNat / Decimal.ofNatNearest s.total.toNat

end CallStats

/-- One provider's client and counters. -/
structure Registration where
  client : Backend
  stats : CallStats := {}
  deriving Inhabited

/-- Clients by provider, in provider order, each provider once. -/
structure Registry where
  entries : List (Provider × Registration) := []
  /-- The entries go up strictly in provider rank. -/
  ordered : entries.Pairwise (fun a b => a.1.rank < b.1.rank) := by decide

namespace Registry

/-- The registry with no client. -/
def empty : Registry := ⟨[], List.Pairwise.nil⟩

instance : Inhabited Registry := ⟨empty⟩

/-- Register a client under its provider, replacing any earlier one and its counters. -/
def register (g : Registry) (c : Backend) : Registry :=
  ⟨insertKeyed (fun a b => a.rank < b.rank) c.provider { client := c } g.entries,
    pairwise_insertKeyed (fun _ _ h => Provider.rank_injective h) _ _ g.ordered⟩

/-- The registration of a provider. -/
def find? (g : Registry) (p : Provider) : Option Registration :=
  (g.entries.find? (fun e => e.1 == p)).map Prod.snd

/-- The client of a provider. -/
def client? (g : Registry) (p : Provider) : Option Backend :=
  (g.find? p).map Registration.client

/-- Whether a provider has a client. -/
def contains (g : Registry) (p : Provider) : Bool := (g.find? p).isSome

/-- The providers with a client, in provider order. -/
def providers (g : Registry) : List Provider := g.entries.map Prod.fst

/-- Each provider has one client at most. -/
theorem providers_nodup (g : Registry) : g.providers.Nodup := nodup_of_pairwise g.ordered

/-- Change a provider's registration, if it has one. -/
def modify (g : Registry) (p : Provider) (f : Registration → Registration) : Registry :=
  ⟨g.entries.map (fun e => if e.1 = p then (e.1, f e.2) else e),
    pairwise_map_of_fst _ (fun e => by by_cases h : e.1 = p <;> simp [h]) g.ordered⟩

/-- Replace every client by what `F` makes of it, keeping the counters. -/
def mapClients (g : Registry) (F : Backend → Backend) : Registry :=
  ⟨g.entries.map (fun e => (e.1, { e.2 with client := F e.2.client })),
    pairwise_map_of_fst _ (fun _ => rfl) g.ordered⟩

/-- Replace a provider's client, keeping its counters. -/
def setClient (g : Registry) (p : Provider) (c : Backend) : Registry :=
  g.modify p (fun r => { r with client := c })

/-- Record a successful call of a provider with its latency. -/
def recordSuccess (g : Registry) (p : Provider) (latencyMs : Nat) : Registry :=
  g.modify p (fun r => { r with stats := r.stats.success latencyMs })

/-- Record a failed call of a provider. -/
def recordFailure (g : Registry) (p : Provider) : Registry :=
  g.modify p (fun r => { r with stats := r.stats.failure })

/-- The counters of every registered provider, in provider order. -/
def stats (g : Registry) : List (Provider × CallStats) :=
  g.entries.map (fun e => (e.1, e.2.stats))

/-- The counters as JSON, one object per provider in provider order. -/
def statsJson (g : Registry) : Json :=
  .arr (g.stats.map (fun e => Json.object [("provider", e.1.toJson),
    ("total_requests", Json.nat e.2.total.toNat), ("failed_requests", Json.nat e.2.failed.toNat),
    ("failure_rate", .num (.double e.2.failureRate)),
    ("last_latency_ms", Json.nat e.2.lastLatencyMs.toNat)]))

end Registry

end QueryRelay
