import QueryRelay.Query.Response
import QueryRelay.Context

/-!
# The in-memory response cache

Responses are kept under the request's cache key with the instant they expire: an entry
stored at `t` with time-to-live `d` is live at instants before `t + d`.

* A lookup of a live entry returns it and counts a hit; any other lookup counts a miss. A
  disabled cache returns nothing and counts nothing.
* A store does nothing when the cache is disabled or may hold no item. A key already present
  is always stored again, with a new expiry. A new key when the cache is full first drops
  the expired entries; if it is still full, the new entry is dropped.
* A cleanup drops the expired entries and says how many; a flush drops everything.

Expired entries stay until a cleanup or a full store removes them, and count in the length.
-/

namespace QueryRelay

/-- One stored response. -/
structure CacheEntry where
  key : String
  response : Response
  expiresAt : Nat
  deriving DecidableEq, Repr, Inhabited

/-- An in-memory cache with a time-to-live and an item cap. -/
structure MemoryCache where
  /-- Entries in the order their keys were first stored, each key once. -/
  entries : List CacheEntry := []
  ttlMs : Nat
  maxItems : Nat
  enabled : Bool := true
  hits : UInt64 := 0
  misses : UInt64 := 0
  deriving DecidableEq, Repr, Inhabited

namespace MemoryCache

/-- A cache that stores nothing and counts nothing. -/
def disabled : MemoryCache := { ttlMs := 0, maxItems := 0, enabled := false }

/-- Whether an entry is still live at `now`. -/
def CacheEntry.isLive (e : CacheEntry) (now : Nat) : Bool := now < e.expiresAt

/-- Look a key up at `now`. -/
def get (c : MemoryCache) (key : String) (now : Nat) : Option Response × MemoryCache :=
  if !c.enabled then (none, c)
  else
    match c.entries.find? (fun e => e.key == key) with
    | some e =>
      if CacheEntry.isLive e now then (some e.response, { c with hits := c.hits + 1 })
      else (none, { c with misses := c.misses + 1 })
    | none => (none, { c with misses := c.misses + 1 })

/-- Put an entry in place of the entry with its key, or after all entries. -/
def upsert (e : CacheEntry) : List CacheEntry → List CacheEntry
  | [] => [e]
  | d :: rest => if d.key = e.key then e :: rest else d :: upsert e rest

/-- Store a response under a key at `now`. The new state comes with the crash, if forming the
expiry instant crashed; expired entries dropped to make room stay dropped. -/
def set (c : MemoryCache) (key : String) (r : Response) (now : Nat) :
    Except Crash Unit × MemoryCache :=
  if !c.enabled || c.maxItems = 0 then (.ok (), c)
  else
    let present := c.entries.any (fun e => e.key == key)
    let c := if !present && c.entries.length ≥ c.maxItems then
        { c with entries := c.entries.filter (fun e => CacheEntry.isLive e now) }
      else c
    if !present && c.entries.length ≥ c.maxItems then (.ok (), c)
    else
      match instantAfter now c.ttlMs with
      | .error crash => (.error crash, c)
      | .ok expiresAt => (.ok (), { c with entries := upsert ⟨key, r, expiresAt⟩ c.entries })

/-- Drop the expired entries at `now` and say how many there were. -/
def cleanup (c : MemoryCache) (now : Nat) : Nat × MemoryCache :=
  let kept := c.entries.filter (fun e => CacheEntry.isLive e now)
  (c.entries.length - kept.length, { c with entries := kept })

/-- Drop every entry. -/
def flush (c : MemoryCache) : MemoryCache := { c with entries := [] }

/-- The number of entries, expired ones included. -/
def size (c : MemoryCache) : Nat := c.entries.length

end MemoryCache

end QueryRelay
