import QueryRelay.Cache.Memory

/-!
# The in-memory cache refines a map of stored responses

The in-memory cache keeps, for each key, a response and the instant it expires. What it stands
for is simpler: a map from keys to the response last stored and the instant it was stored
(`StoredMap`), with the calls of the cache said directly in its terms.

* A lookup at `t` finds a response, and counts a hit, exactly when the key's entry was stored
  less than the time-to-live before `t`; otherwise it counts a miss. A disabled cache finds
  nothing and counts nothing.
* A store is accepted when the cache is enabled and may hold items, and the key is held
  already, live or not, or fewer entries than the cap are live (`StoredMap.accepts`). A new key
  that finds the map at the cap first removes the expired entries, whether it is then accepted
  or not (`StoredMap.room`). An accepted store makes the response and the instant the key's
  entry.
* A cleanup removes the expired entries and answers how many; a flush removes everything.

`StoredMap.toCache` is the cache that stands for a map: each entry expires `ttl` after it was
stored. Each call on that cache answers as the call on the map and leaves the cache standing
for the map after it (`StoredMap.call_toCache`), and so does every history
(`StoredMap.run_toCache`). Along the way the map never holds more than `maxItems` entries.

A store has to form its expiry instant, which the cache's clock can only do below `2^63`
seconds (`instantAfter`); past that the store crashes. So the refinement asks that every store
of the history can form it.
-/

namespace QueryRelay

/-- A call on the in-memory cache. -/
inductive CacheCall where
  | get (key : String)
  | set (key : String) (r : Response)
  | cleanup
  | flush
  | len
  | stats

/-- What a call on the cache answers. -/
inductive CacheAnswer where
  /-- The response a lookup found, if any. -/
  | found (r : Option Response)
  /-- A store or a flush. -/
  | done
  /-- How many entries a cleanup removed. -/
  | removed (n : Nat)
  /-- How many entries there are, expired ones included. -/
  | size (n : Nat)
  /-- The entries, hits and misses. -/
  | counts (entries : Nat) (hits misses : UInt64)
  deriving DecidableEq

theorem instantAfter_eq_ok {now d e : Nat} (h : instantAfter now d = .ok e) : e = now + d := by
  unfold instantAfter at h
  dsimp only at h
  by_cases hover : now / 1000 + d / 1000 + (if now % 1000 + d % 1000 ≥ 1000 then 1 else 0) ≥ Nat.pow 2 63
  · rw [if_pos hover] at h
    cases h
  · rw [if_neg hover] at h
    cases h
    rfl

namespace MemoryCache

/-- A cache with nothing in it and nothing counted yet. -/
def fresh (ttlMs maxItems : Nat) (enabled : Bool) : MemoryCache :=
  { ttlMs := ttlMs, maxItems := maxItems, enabled := enabled }

/-- Make one call at `t`. A store whose expiry instant cannot be formed crashes. -/
def call (c : MemoryCache) (t : Nat) : CacheCall → Except Crash (CacheAnswer × MemoryCache)
  | .get key => .ok (.found (c.get key t).1, (c.get key t).2)
  | .set key r =>
    match c.set key r t with
    | (.error crash, _) => .error crash
    | (.ok (), c) => .ok (.done, c)
  | .cleanup => .ok (.removed (c.cleanup t).1, (c.cleanup t).2)
  | .flush => .ok (.done, c.flush)
  | .len => .ok (.size c.size, c)
  | .stats => .ok (.counts c.size c.hits c.misses, c)

/-- Make the calls of a history in order; the first crash ends it. -/
def run (c : MemoryCache) : List (Nat × CacheCall) → Except Crash (List CacheAnswer × MemoryCache)
  | [] => .ok ([], c)
  | (t, k) :: h =>
    match c.call t k with
    | .error crash => .error crash
    | .ok (a, c) =>
      match run c h with
      | .error crash => .error crash
      | .ok (as, c) => .ok (a :: as, c)

end MemoryCache

/-- A key's response and the instant it was stored. -/
structure StoredEntry where
  key : String
  response : Response
  storedAt : Nat

namespace StoredEntry

/-- Whether the entry is live at `t`: `t` comes before `ttl` after it was stored. -/
def live (ttl t : Nat) (e : StoredEntry) : Bool := t < e.storedAt + ttl

end StoredEntry

/-- The map the cache stands for: keys with their response and the instant they were stored,
each key once, in the order keys were first stored; and the hits and misses counted. -/
structure StoredMap where
  entries : List StoredEntry := []
  hits : UInt64 := 0
  misses : UInt64 := 0

namespace StoredMap

/-- Put `key`'s response stored at `t` in place of its entry, or after all entries. -/
def put (key : String) (r : Response) (t : Nat) : List StoredEntry → List StoredEntry
  | [] => [⟨key, r, t⟩]
  | e :: rest => if e.key = key then ⟨key, r, t⟩ :: rest else e :: put key r t rest

section Ops

variable (ttl maxItems : Nat) (enabled : Bool)

/-- The entry of a key. -/
def lookup (M : StoredMap) (key : String) : Option StoredEntry :=
  M.entries.find? (fun e => e.key == key)

/-- Whether a key has an entry, live or not. -/
def holds (M : StoredMap) (key : String) : Bool := M.entries.any (fun e => e.key == key)

/-- A lookup at `t`: a live entry's response, counted as a hit; otherwise nothing, counted as a
miss. A disabled cache answers nothing and counts nothing. -/
def get (M : StoredMap) (key : String) (t : Nat) : Option Response × StoredMap :=
  if !enabled then (none, M)
  else
    match M.lookup key with
    | some e =>
      if e.live ttl t then (some e.response, { M with hits := M.hits + 1 })
      else (none, { M with misses := M.misses + 1 })
    | none => (none, { M with misses := M.misses + 1 })

/-- Whether a store of `key` at `t` is accepted: the cache is enabled and may hold items, and
the key is held already (live or not) or fewer than `maxItems` entries are live at `t`. -/
def accepts (M : StoredMap) (key : String) (t : Nat) : Bool :=
  enabled && 0 < maxItems &&
    (M.holds key || (M.entries.filter (StoredEntry.live ttl t)).length < maxItems)

/-- The entries a store of `key` at `t` finds: when the key is new and the map is at the cap,
the expired entries are gone first, whether the store is then accepted or not. -/
def room (M : StoredMap) (key : String) (t : Nat) : List StoredEntry :=
  if enabled && 0 < maxItems && !M.holds key && maxItems ≤ M.entries.length then
    M.entries.filter (StoredEntry.live ttl t)
  else M.entries

/-- A store of `key`'s response at `t`: an accepted store makes `(r, t)` the key's entry. -/
def set (M : StoredMap) (key : String) (r : Response) (t : Nat) : StoredMap :=
  { M with entries :=
      if accepts ttl maxItems enabled M key t then put key r t (room ttl maxItems enabled M key t)
      else room ttl maxItems enabled M key t }

/-- A cleanup at `t`: the entries expired at `t` go, and their number is the answer. -/
def cleanup (M : StoredMap) (t : Nat) : Nat × StoredMap :=
  (M.entries.countP (fun e => !e.live ttl t),
    { M with entries := M.entries.filter (StoredEntry.live ttl t) })

/-- One call at `t`. -/
def call (M : StoredMap) (t : Nat) : CacheCall → CacheAnswer × StoredMap
  | .get key => (.found (get ttl enabled M key t).1, (get ttl enabled M key t).2)
  | .set key r => (.done, set ttl maxItems enabled M key r t)
  | .cleanup => (.removed (cleanup ttl M t).1, (cleanup ttl M t).2)
  | .flush => (.done, { M with entries := [] })
  | .len => (.size M.entries.length, M)
  | .stats => (.counts M.entries.length M.hits M.misses, M)

/-- The calls of a history in order. -/
def run (M : StoredMap) : List (Nat × CacheCall) → List CacheAnswer × StoredMap
  | [] => ([], M)
  | (t, k) :: h =>
    let (a, M) := call ttl maxItems enabled M t k
    let (as, M) := run M h
    (a :: as, M)

/-- The cache entry that stands for an entry of the map. -/
def toEntry (e : StoredEntry) : CacheEntry := ⟨e.key, e.response, e.storedAt + ttl⟩

/-- The cache that stands for the map: each entry expires `ttl` after it was stored. -/
def toCache (M : StoredMap) : MemoryCache :=
  { entries := M.entries.map (toEntry ttl), ttlMs := ttl,
    maxItems := maxItems, enabled := enabled, hits := M.hits, misses := M.misses }

/-- An accepted store is what a later lookup of its key finds, until the key is stored again or
its entry goes. -/
theorem lookup_set_of_accepts (M : StoredMap) (key : String) (r : Response) (t : Nat)
    (h : accepts ttl maxItems enabled M key t = true) :
    (set ttl maxItems enabled M key r t).lookup key = some ⟨key, r, t⟩ := by
  unfold lookup set
  rw [if_pos h]
  -- the store's entry is the first of its key
  induction room ttl maxItems enabled M key t with
  | nil => simp [put]
  | cons e rest ih =>
    unfold put
    split
    · simp
    · rename_i hne
      simp [hne, ih]

/-! ## The cap -/

theorem length_put_le (key : String) (r : Response) (t : Nat) (l : List StoredEntry) :
    (put key r t l).length ≤ l.length + 1 := by
  induction l with
  | nil => exact Nat.le_refl _
  | cons e rest ih =>
    unfold put
    split
    · exact Nat.le_succ _
    · exact Nat.succ_le_succ ih

theorem length_put_of_any (key : String) (r : Response) (t : Nat) {l : List StoredEntry}
    (h : l.any (fun e => e.key == key) = true) : (put key r t l).length = l.length := by
  induction l with
  | nil => cases h
  | cons e rest ih =>
    unfold put
    split
    · rfl
    · rename_i hne
      have hrest : rest.any (fun e => e.key == key) = true := by
        simpa [hne] using h
      simp only [List.length_cons, ih hrest]

theorem get_entries (M : StoredMap) (key : String) (t : Nat) :
    (get ttl enabled M key t).2.entries = M.entries := by
  unfold get
  split
  · rfl
  · split
    · split <;> rfl
    · rfl

theorem length_room_le (M : StoredMap) (key : String) (t : Nat) :
    (room ttl maxItems enabled M key t).length ≤ M.entries.length := by
  unfold room
  split
  · exact List.length_filter_le _ _
  · exact Nat.le_refl _

/-- A store keeps the map within the cap: a held key's entry is replaced, and a new key is
accepted only below the cap once the expired entries are gone. -/
theorem set_length_le (M : StoredMap) (key : String) (r : Response) (t : Nat)
    (hM : M.entries.length ≤ maxItems) :
    (set ttl maxItems enabled M key r t).entries.length ≤ maxItems := by
  unfold set
  dsimp only
  split
  · rename_i hacc
    unfold accepts at hacc
    simp only [Bool.and_eq_true, decide_eq_true_eq, Bool.or_eq_true] at hacc
    obtain ⟨⟨hen, hpos⟩, hfew⟩ := hacc
    by_cases hheld : M.holds key = true
    · have hroom : room ttl maxItems enabled M key t = M.entries := by
        simp [room, hheld]
      rw [hroom, length_put_of_any key r t hheld]
      exact hM
    · have hlive : (M.entries.filter (StoredEntry.live ttl t)).length < maxItems := by
        simpa [hheld] using hfew
      have hlt : (room ttl maxItems enabled M key t).length < maxItems := by
        by_cases hcap : maxItems ≤ M.entries.length
        · simpa [room, hen, hpos, hheld, hcap] using hlive
        · simp only [room, hen, hpos, hheld, hcap, decide_true, decide_false, Bool.not_false,
            Bool.and_true, Bool.and_false, Bool.false_eq_true, if_false]
          exact Nat.lt_of_not_le hcap
      exact Nat.le_trans (length_put_le key r t _) hlt
  · exact Nat.le_trans (length_room_le ttl maxItems enabled M key t) hM

theorem call_length_le (M : StoredMap) (t : Nat) (k : CacheCall)
    (hM : M.entries.length ≤ maxItems) :
    (call ttl maxItems enabled M t k).2.entries.length ≤ maxItems := by
  cases k with
  | get key => simpa only [call, get_entries] using hM
  | set key r => exact set_length_le ttl maxItems enabled M key r t hM
  | cleanup => exact Nat.le_trans (List.length_filter_le _ _) hM
  | flush => exact Nat.zero_le _
  | len => exact hM
  | stats => exact hM

theorem run_length_le (M : StoredMap) (h : List (Nat × CacheCall))
    (hM : M.entries.length ≤ maxItems) :
    (run ttl maxItems enabled M h).2.entries.length ≤ maxItems := by
  induction h generalizing M with
  | nil => exact hM
  | cons tk h ih =>
    obtain ⟨t, k⟩ := tk
    exact ih _ (call_length_le ttl maxItems enabled M t k hM)

/-! ## The cache stands for the map -/

theorem isLive_toEntry (t : Nat) (e : StoredEntry) :
    MemoryCache.CacheEntry.isLive (toEntry ttl e) t = e.live ttl t := rfl

theorem upsert_toEntry (key : String) (r : Response) (t : Nat) (l : List StoredEntry) :
    MemoryCache.upsert (toEntry ttl ⟨key, r, t⟩) (l.map (toEntry ttl)) =
      (put key r t l).map (toEntry ttl) := by
  induction l with
  | nil => rfl
  | cons e rest ih =>
    simp only [List.map_cons, MemoryCache.upsert, put, toEntry]
    split <;> simp_all [toEntry]

theorem filter_isLive_toEntry (t : Nat) (l : List StoredEntry) :
    (l.map (toEntry ttl)).filter (fun e => MemoryCache.CacheEntry.isLive e t) =
      (l.filter (StoredEntry.live ttl t)).map (toEntry ttl) := by
  rw [List.filter_map]
  rfl

@[simp] theorem toCache_enabled (M : StoredMap) :
    (toCache ttl maxItems enabled M).enabled = enabled := rfl

@[simp] theorem toCache_maxItems (M : StoredMap) :
    (toCache ttl maxItems enabled M).maxItems = maxItems := rfl

@[simp] theorem toCache_ttlMs (M : StoredMap) : (toCache ttl maxItems enabled M).ttlMs = ttl := rfl

theorem toCache_entries (M : StoredMap) :
    (toCache ttl maxItems enabled M).entries = M.entries.map (toEntry ttl) := rfl

/-- A cache whose entries stand for a list of the map's entries stands for the map with that
list. -/
theorem toCache_with_entries (M : StoredMap) {E : List CacheEntry}
    {l : List StoredEntry} (h : E = l.map (toEntry ttl)) :
    ({ toCache ttl maxItems enabled M with entries := E } : MemoryCache) =
      toCache ttl maxItems enabled { M with entries := l } := by
  subst h
  rfl

theorem get_toCache (M : StoredMap) (key : String) (t : Nat) :
    (toCache ttl maxItems enabled M).get key t =
      ((get ttl enabled M key t).1, toCache ttl maxItems enabled (get ttl enabled M key t).2) := by
  unfold MemoryCache.get get lookup
  cases enabled
  · rfl
  · have hfind : (toCache ttl maxItems true M).entries.find? (fun e => e.key == key) =
        (M.entries.find? (fun e => e.key == key)).map (toEntry ttl) := List.find?_map
    have hen : (toCache ttl maxItems true M).enabled = true := rfl
    simp only [hen, Bool.not_true, Bool.false_eq_true, if_false]
    rw [hfind]
    rcases hf : M.entries.find? (fun e => e.key == key) with _ | e
    · simp only [hf, Option.map_none]
      rfl
    · simp only [hf, Option.map_some, isLive_toEntry]
      by_cases hl : e.live ttl t = true
      · simp only [hl, ↓reduceIte]
        rfl
      · simp only [hl]
        rfl

theorem set_toCache (M : StoredMap) (key : String) (r : Response) (t : Nat)
    (hfit : ∃ e, instantAfter t ttl = .ok e) :
    (toCache ttl maxItems enabled M).set key r t =
      (.ok (), toCache ttl maxItems enabled (set ttl maxItems enabled M key r t)) := by
  obtain ⟨e, he⟩ := hfit
  have hexp : instantAfter t ttl = .ok (t + ttl) := instantAfter_eq_ok he ▸ he
  have hany : (toCache ttl maxItems enabled M).entries.any (fun c => c.key == key) =
      M.holds key := List.any_map
  have hlen : (toCache ttl maxItems enabled M).entries.length = M.entries.length :=
    List.length_map _
  have hfilter : (toCache ttl maxItems enabled M).entries.filter
      (fun c => MemoryCache.CacheEntry.isLive c t) =
      (M.entries.filter (StoredEntry.live ttl t)).map (toEntry ttl) :=
    filter_isLive_toEntry ttl t M.entries
  unfold MemoryCache.set set accepts room
  simp only [hany, hlen, toCache_enabled, toCache_maxItems, toCache_ttlMs]
  cases enabled
  · simp
  · rcases Nat.eq_zero_or_pos maxItems with h0 | hpos
    · subst h0
      simp
    · have hne : maxItems ≠ 0 := Nat.ne_of_gt hpos
      simp only [Bool.not_true, Bool.false_or, hne, decide_false, Bool.false_eq_true, if_false,
        Bool.true_and, hpos, decide_true]
      by_cases hk : M.holds key = true
      · simp only [hk, Bool.not_true, Bool.false_and, Bool.false_eq_true, if_false, Bool.true_or,
          if_true, toCache_ttlMs, hexp]
        exact congrArg (Prod.mk _) (toCache_with_entries ttl maxItems true M
          (upsert_toEntry ttl key r t M.entries))
      · simp only [Bool.not_eq_true] at hk
        simp only [hk, Bool.not_false, Bool.true_and, Bool.false_or]
        by_cases hcap : maxItems ≤ M.entries.length
        · -- at the cap: the expired entries go first
          simp only [ge_iff_le, hcap, decide_true, if_true, hfilter, List.length_map]
          by_cases hlive : maxItems ≤ (M.entries.filter (StoredEntry.live ttl t)).length
          · simp only [hlive, decide_true, if_true, Nat.not_lt.2 hlive, decide_false,
              Bool.false_eq_true, if_false]
            exact congrArg (Prod.mk _) (toCache_with_entries ttl maxItems true M rfl)
          · simp only [hlive, decide_false, Bool.false_eq_true, if_false, Nat.lt_of_not_le hlive,
              decide_true, if_true, hexp]
            exact congrArg (Prod.mk _) (toCache_with_entries ttl maxItems true M
              (upsert_toEntry ttl key r t _))
        · -- below the cap: the store is accepted as it is
          have hlt : (M.entries.filter (StoredEntry.live ttl t)).length < maxItems :=
            Nat.lt_of_le_of_lt (List.length_filter_le _ _) (Nat.lt_of_not_le hcap)
          simp only [ge_iff_le, hcap, decide_false, Bool.false_eq_true, if_false, hlen, hlt,
            decide_true, if_true, toCache_ttlMs, toCache_maxItems, hexp]
          exact congrArg (Prod.mk _) (toCache_with_entries ttl maxItems true M
            (upsert_toEntry ttl key r t M.entries))

/-- A cleanup keeps the live entries, so it removes as many as are expired. -/
theorem length_sub_live (t : Nat) (l : List StoredEntry) :
    l.length - (l.filter (StoredEntry.live ttl t)).length = l.countP (fun e => !e.live ttl t) := by
  have hsplit := List.length_eq_countP_add_countP (StoredEntry.live ttl t) (l := l)
  rw [List.countP_eq_length_filter] at hsplit
  have hnot : l.countP (fun e => decide ¬(e.live ttl t = true)) = l.countP (fun e => !e.live ttl t) := by
    simp
  omega

theorem cleanup_toCache (M : StoredMap) (t : Nat) :
    (toCache ttl maxItems enabled M).cleanup t =
      ((cleanup ttl M t).1, toCache ttl maxItems enabled (cleanup ttl M t).2) := by
  unfold MemoryCache.cleanup cleanup
  dsimp only
  rw [toCache_entries, filter_isLive_toEntry, List.length_map, List.length_map, length_sub_live]
  exact congrArg (Prod.mk _) (toCache_with_entries ttl maxItems enabled M rfl)

/-- **One call.** The cache that stands for a map answers a call as the map does, and is left
standing for the map after the call, provided a store's expiry instant can be formed. -/
theorem call_toCache (M : StoredMap) (t : Nat) (k : CacheCall)
    (hfit : ∀ key r, k = .set key r → ∃ e, instantAfter t ttl = .ok e) :
    (toCache ttl maxItems enabled M).call t k =
      .ok ((call ttl maxItems enabled M t k).1,
        toCache ttl maxItems enabled (call ttl maxItems enabled M t k).2) := by
  cases k with
  | get key => simp only [MemoryCache.call, call, get_toCache]
  | set key r =>
    simp only [MemoryCache.call, call, set_toCache ttl maxItems enabled M key r t (hfit key r rfl)]
  | cleanup => simp only [MemoryCache.call, call, cleanup_toCache]
  | flush =>
    exact congrArg (fun c => Except.ok (CacheAnswer.done, c))
      (@toCache_with_entries ttl maxItems enabled M [] [] rfl)
  | len => simp only [MemoryCache.call, call, MemoryCache.size, toCache_entries, List.length_map]
  | stats =>
    simp only [MemoryCache.call, call, MemoryCache.size, toCache_entries, List.length_map]
    rfl

/-- **A history.** Run from the cache that stands for a map, a history answers as it does on
the map and leaves the cache that stands for the map it leaves, provided the expiry instant of
every store in it can be formed. -/
theorem run_toCache (M : StoredMap) (h : List (Nat × CacheCall))
    (hfit : ∀ t key r, (t, CacheCall.set key r) ∈ h → ∃ e, instantAfter t ttl = .ok e) :
    (toCache ttl maxItems enabled M).run h =
      .ok ((run ttl maxItems enabled M h).1,
        toCache ttl maxItems enabled (run ttl maxItems enabled M h).2) := by
  -- on the history, from any map
  induction h generalizing M with
  | nil => rfl
  | cons tk h ih =>
    obtain ⟨t, k⟩ := tk
    have hcall := call_toCache ttl maxItems enabled M t k fun key r hk =>
      hfit t key r (hk ▸ List.mem_cons_self)
    rw [MemoryCache.run, hcall]
    dsimp only
    rw [ih _ fun t' key r hm => hfit t' key r (List.mem_cons_of_mem _ hm)]
    rfl

end Ops

end StoredMap

namespace MemoryCache

/-- **The in-memory cache refines the map of stored responses.** For every time-to-live, cap
and enabled flag, and every history of lookups, stores, cleanups, flushes and counts, a fresh
cache answers every call as the map of keys to their response and storing instant does
(`StoredMap.call`), and ends as the cache that stands for the map's end, which holds at most
`maxItems` entries; provided the expiry instant of every store in the history can be
formed. -/
theorem run_fresh_refines (ttl maxItems : Nat) (enabled : Bool) (h : List (Nat × CacheCall))
    (hfit : ∀ t key r, (t, CacheCall.set key r) ∈ h → ∃ e, instantAfter t ttl = .ok e) :
    (fresh ttl maxItems enabled).run h =
      .ok ((StoredMap.run ttl maxItems enabled {} h).1,
        StoredMap.toCache ttl maxItems enabled (StoredMap.run ttl maxItems enabled {} h).2) ∧
    (StoredMap.run ttl maxItems enabled {} h).2.entries.length ≤ maxItems :=
  ⟨StoredMap.run_toCache ttl maxItems enabled {} h hfit,
    StoredMap.run_length_le ttl maxItems enabled {} h (Nat.zero_le _)⟩

/-- A store, two lookups on either side of its expiry, and a cleanup, with a time-to-live of one
second. -/
theorem run_fresh_refines_store_and_expire :
    let h : List (Nat × CacheCall) :=
      [(0, .set "k" default), (999, .get "k"), (1000, .get "k"), (1000, .cleanup), (1000, .len)]
    (∀ t key r, (t, CacheCall.set key r) ∈ h → ∃ e, instantAfter t 1000 = .ok e) ∧
    (fresh 1000 1 true).run h =
      .ok ((StoredMap.run 1000 1 true {} h).1,
        StoredMap.toCache 1000 1 true (StoredMap.run 1000 1 true {} h).2) ∧
    (StoredMap.run 1000 1 true {} h).2.entries.length ≤ 1 := by
  intro h
  have hfit : ∀ t key r, (t, CacheCall.set key r) ∈ h → ∃ e, instantAfter t 1000 = .ok e := by
    intro t key r hm
    simp only [h, List.mem_cons, Prod.mk.injEq, CacheCall.set.injEq, List.not_mem_nil,
      reduceCtorEq, and_false, or_false] at hm
    obtain ⟨rfl, -⟩ := hm
    exact ⟨1000, rfl⟩
  exact ⟨hfit, run_fresh_refines 1000 1 true h hfit⟩

end MemoryCache

end QueryRelay
