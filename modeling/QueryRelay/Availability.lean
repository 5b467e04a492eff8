import QueryRelay.Provider
import QueryRelay.Time.Stamp
import QueryRelay.Json.Value
import QueryRelay.Keyed

/-!
# Availability snapshots and routing decisions

A *snapshot* tells which providers were up when it was taken: a map from provider to a flag,
kept in provider order, the time of the refresh it came from (none before the first), and the
interval in seconds after which it counts as stale. A provider the map does not name is down.
The map carries its order as a field (`UpMap.ordered`), proved where a flag is set.

A *routing decision* names a provider and why it was chosen: the caller asked for it, the
task type's preferred provider, a random pick among the providers up, or a replacement after
a failure.
-/

namespace QueryRelay

/-- Why a provider was chosen. -/
inductive RouteReason where
  | userPreference
  | taskAffinity
  | random
  | fallback
  deriving DecidableEq, Repr, Inhabited

namespace RouteReason

/-- The wire names, in declaration order. -/
def spellings : List (String × RouteReason) :=
  [("user_preference", .userPreference), ("task_affinity", .taskAffinity),
   ("random", .random), ("fallback", .fallback)]

/-- The wire name. -/
def wireName : RouteReason → String
  | .userPreference => "user_preference"
  | .taskAffinity => "task_affinity"
  | .random => "random"
  | .fallback => "fallback"

/-- Read a reason from JSON. -/
def decode : Schema.Decoder RouteReason := Schema.Decoder.choice spellings

/-- A reason as JSON. -/
def toJson (r : RouteReason) : Json := .str r.wireName

end RouteReason

/-- A provider and why it was chosen. -/
structure RouteDecision where
  provider : Provider
  reason : RouteReason
  deriving DecidableEq, Repr, Inhabited

namespace RouteDecision

/-- Read a decision from JSON. -/
def decode : Schema.Decoder RouteDecision :=
  Schema.Decoder.record "struct RouteDecision" ["provider", "reason"] fun r => do
    let provider ← r.required "provider" Provider.decode
    let reason ← r.required "reason" RouteReason.decode
    pure ⟨provider, reason⟩

/-- A decision as JSON. -/
def toJson (d : RouteDecision) : Json :=
  Json.object [("provider", d.provider.toJson), ("reason", d.reason.toJson)]

end RouteDecision

/-- Provider flags in provider order, each provider once. -/
@[ext] structure UpMap where
  flags : List (Provider × Bool) := []
  /-- The flags go up strictly in provider rank. -/
  ordered : flags.Pairwise (fun a b => a.1.rank < b.1.rank) := by decide

namespace UpMap

instance : DecidableEq UpMap := fun a b =>
  decidable_of_iff (a.flags = b.flags) ⟨UpMap.ext, fun h => h ▸ rfl⟩

instance : Repr UpMap := ⟨fun m n => reprPrec m.flags n⟩

/-- The map that names no provider. -/
def empty : UpMap := ⟨[], List.Pairwise.nil⟩

instance : Inhabited UpMap := ⟨empty⟩

/-- Set a provider's flag, keeping provider order. -/
def set (m : UpMap) (p : Provider) (up : Bool) : UpMap :=
  ⟨insertKeyed (fun a b => a.rank < b.rank) p up m.flags,
    pairwise_insertKeyed (fun _ _ h => Provider.rank_injective h) _ _ m.ordered⟩

/-- Whether a provider is up; a provider not in the map is down. -/
def isUp (m : UpMap) (p : Provider) : Bool :=
  match m.flags.find? (fun e => e.1 == p) with
  | some e => e.2
  | none => false

/-- The providers that are up, in provider order. -/
def upList (m : UpMap) : List Provider := (m.flags.filter (fun e => e.2)).map Prod.fst

/-- The map as a JSON object. -/
def toJson (m : UpMap) : Json := Json.object (m.flags.map (fun e => (e.1.wireName, .bool e.2)))

end UpMap

/-- Which providers were up at a refresh. -/
structure Snapshot where
  providers : UpMap
  refreshedAt : Option Time.Stamp := none
  ttlSecs : Nat
  deriving DecidableEq, Repr, Inhabited

namespace Snapshot

/-- The providers up, in provider order. -/
def available (s : Snapshot) : List Provider := s.providers.upList

/-- Whether a provider is up. -/
def isAvailable (s : Snapshot) (p : Provider) : Bool := s.providers.isUp p

/-- Read a timestamp given as RFC 3339 text. -/
def decodeStamp : Schema.Decoder Time.Stamp
  | .str s => (Time.Stamp.parse s).mapError (fun e => .custom e.message)
  | j => Schema.Decoder.mismatch j "an RFC 3339 formatted date and time string"

/-- Read a snapshot from JSON. -/
def decode : Schema.Decoder Snapshot :=
  Schema.Decoder.record "struct AvailabilitySnapshot" ["providers", "refreshed_at", "ttl_secs"]
    fun r => do
      let entries ← r.required "providers"
        (Schema.Decoder.entries (Schema.Decoder.spelled Provider.spellings) Schema.Decoder.bool)
      let refreshedAt ← r.optional "refreshed_at" decodeStamp
      let ttlSecs ← r.required "ttl_secs" Schema.Decoder.u64
      pure ⟨entries.foldl (fun m e => m.set e.1 e.2) .empty, refreshedAt, ttlSecs⟩

/-- A snapshot as JSON. -/
def toJson (s : Snapshot) : Json :=
  Json.object [("providers", s.providers.toJson),
    ("refreshed_at", Json.opt (fun t => .str t.render) s.refreshedAt),
    ("ttl_secs", Json.nat s.ttlSecs)]

end Snapshot

end QueryRelay
