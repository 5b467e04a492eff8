import Mathlib
import QueryRelay.Cache.Memory

/-!
# Which durations can be added to an instant

An instant counts whole seconds in a signed 64-bit word, so adding a duration to it stops the
program once the seconds, with the carry of the milliseconds, reach `2^63`
(`instantAfter`). Durations reach the clock from the settings in two units:

* request and fan-out timeouts are 64-bit counts of *milliseconds*. The largest is about
  `1.8 · 10^16` seconds, so it can be added at every instant below `2^63 − 2^55` seconds,
  hundreds of billions of years (`instantAfter_millis`);
* the cache's time-to-live is a 64-bit count of *seconds*, and there the sum can leave the
  range at any instant: a store that keeps its entry stops the program exactly when the
  instant's seconds and the time-to-live together reach `2^63`
  (`MemoryCache.set_crash_iff`). A time-to-live of `2^64 − 1` seconds, which the settings
  accept, stops the first store that keeps its entry.
-/

namespace QueryRelay

/-- A 64-bit count of milliseconds can be added to every instant below `2^63 − 2^55`
seconds. -/
theorem instantAfter_millis {now d : Nat} (hd : d < 2 ^ 64) (hnow : now / 1000 + 2 ^ 55 < 2 ^ 63) :
    instantAfter now d = .ok (now + d) := by
  have hd' : d / 1000 < 2 ^ 55 := by omega
  unfold instantAfter
  rw [if_neg (by simp only [Nat.pow_eq]; split <;> omega)]

/-- Whole seconds bring no carry: the sum leaves the range exactly when the seconds reach
`2^63`. -/
theorem instantAfter_seconds (now secs : Nat) :
    instantAfter now (secs * 1000) =
      if 2 ^ 63 ≤ now / 1000 + secs then .error ⟨"overflow when adding duration to instant"⟩
      else .ok (now + secs * 1000) := by
  unfold instantAfter
  have hc : ¬ (now % 1000 + secs * 1000 % 1000 ≥ 1000) := by omega
  have hs : secs * 1000 / 1000 = secs := Nat.mul_div_cancel _ (by decide)
  simp only [hc, if_false, Nat.add_zero, hs, ge_iff_le, Nat.pow_eq]

namespace MemoryCache

/-- How a store ends: it forms the expiry instant, and stops if that fails, exactly when the
cache is enabled, may hold items, and keeps the entry (its key is present, or there is room
once the expired entries are dropped); otherwise it ends normally. -/
theorem set_fst_eq (c : MemoryCache) (key : String) (r : Response) (now : Nat) :
    (c.set key r now).1 =
      if c.enabled = true ∧ c.maxItems ≠ 0 ∧ (c.entries.any (fun e => e.key == key) = true ∨
          (c.entries.filter (fun e => CacheEntry.isLive e now)).length < c.maxItems) then
        match instantAfter now c.ttlMs with
        | .error crash => .error crash
        | .ok _ => .ok ()
      else .ok () := by
  unfold set
  dsimp only
  -- one case per check of the store: enabled, a cap, a present key, a full cache, room after
  -- the purge
  cases hen : c.enabled with
  | false => simp
  | true =>
  by_cases hmax : c.maxItems = 0
  · simp [hmax]
  by_cases hpres : c.entries.any (fun e => e.key == key) = true
  · simp only [hpres, hmax, Bool.not_true, Bool.false_and, Bool.false_or, Bool.false_eq_true,
      decide_false, ↓reduceIte, ne_eq, not_false_eq_true, true_or, and_self]
    cases instantAfter now c.ttlMs <;> rfl
  · have hpres' : c.entries.any (fun e => e.key == key) = false := by simpa using hpres
    by_cases hfull : c.entries.length ≥ c.maxItems
    · by_cases hroom : (c.entries.filter (fun e => CacheEntry.isLive e now)).length < c.maxItems
      · simp only [hpres', hmax, hfull, hroom, Bool.not_false, Bool.not_true, Bool.true_and,
          Bool.false_or, decide_true, decide_false, ↓reduceIte, Nat.not_le.2 hroom, ne_eq,
          not_false_eq_true, Bool.false_eq_true, false_or, and_self]
        cases instantAfter now c.ttlMs <;> rfl
      · simp only [hpres', hmax, hfull, hroom, Bool.not_false, Bool.not_true, Bool.true_and,
          Bool.false_or, decide_true, decide_false, ↓reduceIte, Nat.le_of_not_lt hroom, ne_eq,
          not_false_eq_true, Bool.false_eq_true, false_or, and_false]
    · have hroom : (c.entries.filter (fun e => CacheEntry.isLive e now)).length < c.maxItems :=
        Nat.lt_of_le_of_lt (List.length_filter_le _ _) (by omega)
      simp only [hpres', hmax, hfull, hroom, Bool.not_false, Bool.not_true, Bool.true_and,
        Bool.false_or, decide_false, ↓reduceIte, ne_eq, not_false_eq_true, Bool.false_eq_true,
        false_or, and_self]
      cases instantAfter now c.ttlMs <;> rfl

/-- A store into a cache whose time-to-live is `secs` seconds stops the program exactly when it
keeps its entry and the instant's seconds and `secs` together reach `2^63`. -/
theorem set_crash_iff (c : MemoryCache) (key : String) (r : Response) (now secs : Nat)
    (httl : c.ttlMs = secs * 1000) :
    (∃ crash, (c.set key r now).1 = .error crash) ↔
      c.enabled = true ∧ c.maxItems ≠ 0 ∧
      (c.entries.any (fun e => e.key == key) = true ∨
        (c.entries.filter (fun e => CacheEntry.isLive e now)).length < c.maxItems) ∧
      2 ^ 63 ≤ now / 1000 + secs := by
  rw [set_fst_eq, httl, instantAfter_seconds]
  by_cases hkeep : c.enabled = true ∧ c.maxItems ≠ 0 ∧ (c.entries.any (fun e => e.key == key) = true ∨
      (c.entries.filter (fun e => CacheEntry.isLive e now)).length < c.maxItems)
  · rw [if_pos hkeep]
    by_cases hover : 2 ^ 63 ≤ now / 1000 + secs
    · rw [if_pos hover]
      exact ⟨fun _ => ⟨hkeep.1, hkeep.2.1, hkeep.2.2, hover⟩, fun _ => ⟨_, rfl⟩⟩
    · rw [if_neg hover]
      exact ⟨fun ⟨_, h⟩ => (by cases h), fun ⟨_, _, _, h⟩ => absurd h hover⟩
  · rw [if_neg hkeep]
    exact ⟨fun ⟨_, h⟩ => (by cases h), fun ⟨h₁, h₂, h₃, _⟩ => absurd ⟨h₁, h₂, h₃⟩ hkeep⟩

end MemoryCache

/-- **Where adding a duration to the clock stops the program.** At an instant `now` (in
milliseconds):

* a 64-bit count of milliseconds, as the request and fan-out timeouts are, is added without
  leaving the range at every instant below `2^63 − 2^55` seconds;
* a store into the in-memory cache whose time-to-live is `secs` seconds stops the program
  exactly when it keeps its entry and `now`'s seconds and `secs` together reach `2^63`: a
  time-to-live below `2^63` seconds less the instant's seconds is safe, and a larger one,
  such as `2^64 − 1`, stops every store that keeps its entry. -/
theorem instant_sums_in_range (now : Nat) :
    (∀ d, d < 2 ^ 64 → now / 1000 + 2 ^ 55 < 2 ^ 63 → instantAfter now d = .ok (now + d)) ∧
    (∀ (c : MemoryCache) (key : String) (r : Response) (secs : Nat), c.ttlMs = secs * 1000 →
      ((∃ crash, (c.set key r now).1 = .error crash) ↔
        c.enabled = true ∧ c.maxItems ≠ 0 ∧
        (c.entries.any (fun e => e.key == key) = true ∨
          (c.entries.filter (fun e => MemoryCache.CacheEntry.isLive e now)).length < c.maxItems) ∧
        2 ^ 63 ≤ now / 1000 + secs)) :=
  ⟨fun _ hd hnow => instantAfter_millis hd hnow,
    fun c key r secs httl => MemoryCache.set_crash_iff c key r now secs httl⟩

/-- The first store into an empty cache whose time-to-live is the largest the settings accept,
`2^64 − 1` seconds, stops the program. -/
theorem instant_sums_in_range_largest_ttl :
    ∃ crash, (({ ttlMs := (2 ^ 64 - 1) * 1000, maxItems := 100 } : MemoryCache).set "k"
      default 0).1 = .error crash :=
  ((instant_sums_in_range 0).2 { ttlMs := (2 ^ 64 - 1) * 1000, maxItems := 100 } "k" default
    (2 ^ 64 - 1) rfl).2 ⟨rfl, by decide, .inr (by decide), by decide⟩

end QueryRelay
