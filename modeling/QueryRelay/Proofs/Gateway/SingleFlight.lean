import QueryRelay.Proofs.Gateway.LazyMoves

/-!
# Lazy refreshes run one at a time

`Gateway.Lazy` describes the readers of one router as a state machine. They find the map stale,
wait in line for the refresh lock, and the reader that holds it refreshes, if the map is still
stale by then. This file proves what every run of that machine keeps, from any gateway and
under every order of events.

* **One at a time.** Every lazy refresh in the log had ended by the time a later one started.
* **Not again within the time-to-live.** A refresh starts only when the map is stale at that
  instant: a time-to-live or more after every completed refresh, and after the refresh the
  router was stamped with to begin with. In any window of one time-to-live, at most one refresh
  starts, besides those cut short (`Refreshers.window_length_le`).
* **Waiting readers do not probe again.** A reader in line when a refresh completes finds the
  map fresh once it holds the lock, and returns without a refresh of its own
  (`Refreshers.Passed.run`).
* **One probe per refresh.** Every scripted client has been probed once per lazy refresh
  started.
* **No time-to-live.** The map is then always stale, and every reader that returned ran a
  complete refresh of its own.

Most of it comes from one invariant of the reachable states (`Refreshers.Invariant`), kept by
every move of the machine (`Refreshers.Invariant.moves`). It ties the lock to the log. While a
reader holds the lock, the latest refresh in the log is its own and still runs, the gateway is
the one that refresh started from with every client probed, and the clock has not passed the
refresh's last answer. While the lock is free, every refresh in the log has ended. The router's
stamp is no older than any completion, and is the one it started with while no refresh has
completed. A second invariant keeps the line to the readers that wait (`Refreshers.Lined`); the
waiting readers' law follows a run from the instant a refresh completes (`Refreshers.Passed`).
-/

namespace QueryRelay

open Gateway

namespace Refreshers

/-! ## What the log keeps -/

/-- What the log keeps between a lazy refresh and every earlier one: the earlier one had ended
when the later one started, and if it completed, the later one started a time-to-live or more
after. -/
def Apart (ttlMs : Nat) (later earlier : Entry) : Prop :=
  (∃ t, earlier.endsAt = some t ∧ t ≤ later.start) ∧
    ∀ T, earlier.completedAt = some T → ttlMs ≤ later.start - T

/-- Every reader that returned ran a complete refresh of its own. -/
def AllRefreshed (s : Refreshers) : Prop :=
  ∀ c, s.phase c = .returned → ∃ x ∈ s.log, x.reader = c ∧ x.completedAt.isSome

theorem AllRefreshed.setPhase {s : Refreshers} (h : s.AllRefreshed) (c : Nat) {p : Phase}
    (hp : p ≠ .returned) : (s.setPhase c p).AllRefreshed := by
  intro d hd
  dsimp only [Refreshers.setPhase] at hd
  by_cases hdc : d = c
  · rw [if_pos hdc] at hd
    exact absurd hd hp
  · rw [if_neg hdc] at hd
    exact h d hd

/-! ## The invariant -/

/-- What every state reached from `init g` keeps. -/
structure Invariant (g : Gateway) (s : Refreshers) : Prop where
  ttl : s.gateway.router.ttlSecs = g.router.ttlSecs
  auto : s.gateway.router.autoRefresh = g.router.autoRefresh
  /-- Each refresh ended before any later one started, a time-to-live before if it completed. -/
  apart : s.log.Pairwise (Apart (g.router.ttlSecs * 1000))
  /-- Each refresh started a time-to-live or more after the stamp the router began with. -/
  fromStamp : ∀ x ∈ s.log, ∀ L, g.router.lastRefresh = some L →
    g.router.ttlSecs * 1000 ≤ x.start - L
  started : ∀ x ∈ s.log, x.start ≤ s.gateway.clock
  ended : ∀ x ∈ s.log, ∀ t, x.endsAt = some t → t ≤ s.gateway.clock
  span : ∀ x ∈ s.log, ∀ t, x.endsAt = some t → x.start ≤ t
  /-- The stamp is no older than any completion. -/
  stamp : ∀ x ∈ s.log, ∀ T, x.completedAt = some T →
    ∃ L, s.gateway.router.lastRefresh = some L ∧ T ≤ L
  unstamped : (∀ x ∈ s.log, x.completedAt = none) →
    s.gateway.router.lastRefresh = g.router.lastRefresh
  free : s.holder = none → ∀ x ∈ s.log, x.ending.isSome
  /-- The reader holding the lock runs the latest refresh, from the gateway it started in. -/
  held : ∀ c g₀, s.holder = some (c, g₀) → ∃ rest, s.log = ⟨c, g₀.clock, none⟩ :: rest ∧
    (∀ x ∈ rest, x.ending.isSome) ∧
    s.gateway = { g₀ with registry := probedRegistry g₀, clock := s.gateway.clock } ∧
    s.gateway.clock ≤ probeFinish g₀
  probes : ∀ q, s.gateway.registry.probesOf q = (g.registry.probesOf q).map (· + s.log.length)
  allRefreshed : g.router.ttlSecs = 0 → g.router.autoRefresh = true → s.AllRefreshed

section Invariant

variable {g : Gateway} {s : Refreshers}

theorem Invariant.init (g : Gateway) : Invariant g (init g) where
  ttl := rfl
  auto := rfl
  apart := List.Pairwise.nil
  fromStamp := fun _ hx => absurd hx List.not_mem_nil
  started := fun _ hx => absurd hx List.not_mem_nil
  ended := fun _ hx => absurd hx List.not_mem_nil
  span := fun _ hx => absurd hx List.not_mem_nil
  stamp := fun _ hx => absurd hx List.not_mem_nil
  unstamped := fun _ => rfl
  free := fun _ _ hx => absurd hx List.not_mem_nil
  held := fun _ _ h => nomatch h
  probes := fun q => by
    show g.registry.probesOf q = (g.registry.probesOf q).map (· + 0)
    cases g.registry.probesOf q <;> rfl
  allRefreshed := fun _ _ _ hc => nomatch hc

/-- An event that moves readers between phases but leaves the gateway, the lock and the log
alone keeps the invariant, as long as every reader it returns ran a complete refresh. -/
theorem Invariant.of_phases {s' : Refreshers} (h : Invariant g s) (hg : s'.gateway = s.gateway)
    (hh : s'.holder = s.holder) (hl : s'.log = s.log)
    (hr : g.router.ttlSecs = 0 → g.router.autoRefresh = true → s'.AllRefreshed) :
    Invariant g s' := by
  obtain ⟨gw', ph', ln', hd', lg'⟩ := s'
  obtain ⟨gw, ph, ln, hd, lg⟩ := s
  dsimp only at hg hh hl
  subst hg hh hl
  exact { h with allRefreshed := hr }

/-- The first reader in line takes the free lock and starts a refresh. -/
theorem Invariant.start (h : Invariant g s) (hfree : s.holder = none) (c : Nat) (rest : List Nat)
    (hstale : s.gateway.router.isStale s.gateway.clock = true) :
    Invariant g { s.setPhase c .refreshing with
      gateway := { s.gateway with registry := (completed s.gateway).registry }
      line := rest
      holder := some (c, s.gateway)
      log := ⟨c, s.gateway.clock, none⟩ :: s.log } where
  ttl := h.ttl
  auto := h.auto
  apart := by
    refine List.pairwise_cons.2 ⟨fun y hy => ⟨?_, fun T hT => ?_⟩, h.apart⟩
    · -- every earlier refresh ended, by now
      obtain ⟨t, ht⟩ := Entry.endsAt_of_isSome (h.free hfree y hy)
      exact ⟨t, ht, h.ended y hy t ht⟩
    · -- and the map is stale now, so every completion lies a time-to-live back
      obtain ⟨L, hL, hTL⟩ := h.stamp y hy T hT
      have hS := Router.ttl_le_of_isStale hstale hL
      rw [h.ttl] at hS
      show g.router.ttlSecs * 1000 ≤ s.gateway.clock - T
      omega
  fromStamp := by
    intro x hx L hL
    rcases List.mem_cons.1 hx with rfl | hx
    · show g.router.ttlSecs * 1000 ≤ s.gateway.clock - L
      cases hlog : s.log with
      | nil =>
        -- no refresh yet: the router still has the stamp it began with
        have hL' : s.gateway.router.lastRefresh = some L :=
          (h.unstamped fun y hy => absurd (hlog ▸ hy) List.not_mem_nil).trans hL
        have hS := Router.ttl_le_of_isStale hstale hL'
        rw [h.ttl] at hS
        exact hS
      | cons y ys =>
        -- a later start than the latest refresh's, which already kept its distance
        have hy : y ∈ s.log := hlog ▸ List.mem_cons_self
        have h1 := h.fromStamp y hy L hL
        have h2 := h.started y hy
        omega
    · exact h.fromStamp x hx L hL
  started := by
    intro x hx
    rcases List.mem_cons.1 hx with rfl | hx
    · exact Nat.le_refl _
    · exact h.started x hx
  ended := by
    intro x hx t ht
    rcases List.mem_cons.1 hx with rfl | hx
    · cases ht
    · exact h.ended x hx t ht
  span := by
    intro x hx t ht
    rcases List.mem_cons.1 hx with rfl | hx
    · cases ht
    · exact h.span x hx t ht
  stamp := by
    intro x hx T hT
    rcases List.mem_cons.1 hx with rfl | hx
    · cases hT
    · exact h.stamp x hx T hT
  unstamped := fun hnone => h.unstamped fun x hx => hnone x (List.mem_cons_of_mem _ hx)
  free := fun hh => nomatch hh
  held := by
    intro c' g₀ hh
    cases hh
    refine ⟨s.log, rfl, h.free hfree, ?_, (Gateway.le_probeFinish s.gateway : s.gateway.clock ≤ _)⟩
    rw [completed_registry]
  probes := by
    intro q
    show (completed s.gateway).registry.probesOf q =
      (g.registry.probesOf q).map (· + (s.log.length + 1))
    rw [completed_registry, probesOf_probedRegistry, h.probes, Option.map_map]
    rfl
  allRefreshed := fun h0 ha d hd => by
    obtain ⟨x, hx, hxd⟩ := (h.allRefreshed h0 ha).setPhase c
      (show Phase.refreshing ≠ .returned by decide) d hd
    exact ⟨x, List.mem_cons_of_mem _ hx, hxd⟩

/-- Closing the latest refresh keeps the log apart: it is the later one of every pair it is
in, and only its start counts there. -/
theorem pairwise_closeLatest {ttlMs : Nat} {log : List Entry} (h : log.Pairwise (Apart ttlMs))
    (e : Ending) : (closeLatest log e).Pairwise (Apart ttlMs) := by
  cases log with
  | nil => exact List.Pairwise.nil
  | cons x rest =>
    obtain ⟨hx, hrest⟩ := List.pairwise_cons.1 h
    exact List.pairwise_cons.2 ⟨hx, hrest⟩

/-- The running refresh ends now, with `en`: the lock is freed, its reader moves to `p`, and the
gateway becomes `gw`, which keeps the clock, the registry and the router's settings, and is
stamped as `en` says. -/
theorem Invariant.close (h : Invariant g s) {c : Nat} {g₀ : Gateway}
    (hheld : s.holder = some (c, g₀)) (en : Ending) (hen : en.time = s.gateway.clock)
    {gw : Gateway} (hclock : gw.clock = s.gateway.clock) (hreg : gw.registry = s.gateway.registry)
    (httl : gw.router.ttlSecs = s.gateway.router.ttlSecs)
    (hauto : gw.router.autoRefresh = s.gateway.router.autoRefresh)
    (hstamp : gw.router.lastRefresh = en.stamp s.gateway.router.lastRefresh) {p : Phase}
    (hp : p = .returned → ∃ T, en = .completed T) :
    Invariant g { s.setPhase c p with
      gateway := gw
      holder := none
      log := closeLatest s.log en } := by
  obtain ⟨rest, hlog, hrest, -, -⟩ := h.held c g₀ hheld
  have hhd : (⟨c, g₀.clock, none⟩ : Entry) ∈ s.log := hlog ▸ List.mem_cons_self
  have hin : ∀ x ∈ rest, x ∈ s.log := fun x hx => hlog ▸ List.mem_cons_of_mem _ hx
  have hstart : g₀.clock ≤ s.gateway.clock := h.started _ hhd
  have hnew : closeLatest s.log en = ⟨c, g₀.clock, some en⟩ :: rest := by
    rw [hlog, closeLatest_cons]
  have hlen : (closeLatest s.log en).length = s.log.length := by
    rw [hnew, hlog, List.length_cons, List.length_cons]
  -- every other refresh had ended, so the stamp covers its completion, if any
  have hold : ∀ x ∈ rest, ∀ T, x.completedAt = some T → T ≤ s.gateway.clock :=
    fun x hx T hT => h.ended x (hin x hx) T (Entry.endsAt_of_completedAt hT)
  refine
    { ttl := httl.trans h.ttl
      auto := hauto.trans h.auto
      apart := pairwise_closeLatest h.apart en
      fromStamp := ?_
      started := ?_
      ended := ?_
      span := ?_
      stamp := ?_
      unstamped := ?_
      free := ?_
      held := fun _ _ hh => nomatch hh
      probes := fun q => by
        show gw.registry.probesOf q = _
        rw [hlen, hreg, h.probes]
      allRefreshed := ?_ } <;> dsimp only <;> rw [hnew]
  · intro x hx L hL
    rcases List.mem_cons.1 hx with rfl | hx
    · exact h.fromStamp _ hhd L hL
    · exact h.fromStamp x (hin x hx) L hL
  · intro x hx
    rw [hclock]
    rcases List.mem_cons.1 hx with rfl | hx
    · exact hstart
    · exact h.started x (hin x hx)
  · intro x hx t ht
    rw [hclock]
    rcases List.mem_cons.1 hx with rfl | hx
    · cases ht
      exact Nat.le_of_eq hen
    · exact h.ended x (hin x hx) t ht
  · intro x hx t ht
    rcases List.mem_cons.1 hx with rfl | hx
    · cases ht
      exact hen ▸ hstart
    · exact h.span x (hin x hx) t ht
  · intro x hx T hT
    rw [hstamp]
    rcases List.mem_cons.1 hx with rfl | hrx
    · -- the refresh that just ended completed, and stamped its end
      cases en with
      | completed t =>
        cases hT
        exact ⟨T, rfl, Nat.le_refl T⟩
      | cut t => cases hT
    · cases en with
      | completed t => exact ⟨t, rfl, Nat.le_trans (hold x hrx T hT) (Nat.le_of_eq hen.symm)⟩
      | cut t => exact h.stamp x (hin x hrx) T hT
  · intro hnone
    rw [hstamp]
    -- no completion in the log: the refresh that just ended was cut short, and left the stamp
    cases en with
    | completed t => cases hnone _ List.mem_cons_self
    | cut t =>
      refine h.unstamped fun x hx => ?_
      rw [hlog] at hx
      rcases List.mem_cons.1 hx with rfl | hrx
      · rfl
      · exact hnone x (List.mem_cons_of_mem _ hrx)
  · intro _ x hx
    rcases List.mem_cons.1 hx with rfl | hx
    · rfl
    · exact hrest x hx
  · intro h0 ha d hd
    dsimp only [Refreshers.setPhase] at hd
    by_cases hdc : d = c
    · -- the reader that refreshed returned, so its refresh completed
      rw [if_pos hdc] at hd
      obtain ⟨T, rfl⟩ := hp hd
      exact ⟨_, List.mem_cons_self, hdc.symm, rfl⟩
    · rw [if_neg hdc] at hd
      obtain ⟨x, hx, hxd, hxc⟩ := h.allRefreshed h0 ha d hd
      rw [hlog] at hx
      rcases List.mem_cons.1 hx with rfl | hx
      · cases hxc
      · exact ⟨x, List.mem_cons_of_mem _ hx, hxd, hxc⟩

/-- Time moves on while nothing can happen before: the running refresh, if any, has not yet
had its last answer. -/
theorem Invariant.tick (h : Invariant g s) {t : Nat} (hle : s.gateway.clock ≤ t)
    (hquiet : s.quietUntil t = true) :
    Invariant g { s with gateway := { s.gateway with clock := t } } where
  ttl := h.ttl
  auto := h.auto
  apart := h.apart
  fromStamp := h.fromStamp
  started := fun x hx => Nat.le_trans (h.started x hx) hle
  ended := fun x hx t' ht' => Nat.le_trans (h.ended x hx t' ht') hle
  span := h.span
  stamp := h.stamp
  unstamped := h.unstamped
  free := h.free
  held := by
    intro c g₀ hheld
    obtain ⟨rest, hlog, hrest, hgw, -⟩ := h.held c g₀ hheld
    have hfin : t ≤ probeFinish g₀ := by
      unfold quietUntil at hquiet
      rw [hheld] at hquiet
      rw [← completed_clock]
      exact of_decide_eq_true hquiet
    refine ⟨rest, hlog, hrest, ?_, hfin⟩
    show { s.gateway with clock := t } = { g₀ with registry := probedRegistry g₀, clock := t }
    rw [hgw]
  probes := h.probes
  allRefreshed := h.allRefreshed

/-- While a reader holds the lock, the gateway is the one its refresh started from, but for the
probes and the clock. -/
theorem Invariant.held_gateway (h : Invariant g s) {c : Nat} {g₀ : Gateway}
    (hheld : s.holder = some (c, g₀)) :
    s.gateway.router = g₀.router ∧ s.gateway.registry = probedRegistry g₀ := by
  obtain ⟨-, -, -, hgw, -⟩ := h.held c g₀ hheld
  rw [hgw]
  exact ⟨rfl, rfl⟩

variable {s' : Refreshers}

/-- **Every event keeps the invariant.** -/
theorem Invariant.moves (h : Invariant g s) (hm : Moves s s') : Invariant g s' := by
  cases hm with
  | queue c hc hw =>
    exact h.of_phases rfl rfl rfl fun h0 ha =>
      (h.allRefreshed h0 ha).setPhase c (show Phase.waiting ≠ .returned by decide)
  | skip c hc hw =>
    -- with no time-to-live, a router that refreshes on its own never finds the map fresh
    refine h.of_phases rfl rfl rfl fun h0 ha => absurd hw ?_
    rw [Router.wantsRefresh_of_ttl_zero (h.ttl.trans h0) (h.auto.trans ha)]
    exact nofun
  | start c rest hfree hline hst => exact h.start hfree c rest hst
  | recheck c rest hfree hline hst =>
    refine h.of_phases rfl rfl rfl fun h0 _ => absurd hst ?_
    rw [Router.isStale_of_ttl_zero (h.ttl.trans h0)]
    exact nofun
  | complete c g₀ hheld hend =>
    obtain ⟨hrouter, hreg⟩ := h.held_gateway hheld
    have hfin : probeFinish g₀ = s.gateway.clock := by rw [← completed_clock]; exact hend
    refine h.close hheld (.completed s.gateway.clock) rfl hend ?_ ?_ ?_ ?_ fun _ => ⟨_, rfl⟩
    · rw [completed_registry, hreg]
    · rw [completed_router, hrouter]
    · rw [completed_router, hrouter]
    · rw [completed_router, hfin]
      rfl
  | drop c hc =>
    exact h.of_phases rfl rfl rfl fun h0 ha =>
      (h.allRefreshed h0 ha).setPhase c (show Phase.abandoned ≠ .returned by decide)
  | leave c hc =>
    exact h.of_phases rfl rfl rfl fun h0 ha =>
      (h.allRefreshed h0 ha).setPhase c (show Phase.abandoned ≠ .returned by decide)
  | cut c g₀ g' e hheld hcut =>
    obtain ⟨hrouter₀, hreg₀⟩ := h.held_gateway hheld
    obtain ⟨hreg, hclock, hrouter⟩ := cutShort_eq hcut
    refine h.close hheld (.cut s.gateway.clock) rfl hclock ?_ ?_ ?_ ?_
      fun hp => absurd hp (by decide)
    · rw [hreg, hreg₀]
    · rw [hrouter, hrouter₀]
    · rw [hrouter, hrouter₀]
    · rw [hrouter, hrouter₀]
      rfl
  | tick t hle hq => exact h.tick hle hq

end Invariant

/-! ## The line -/

/-- The line holds exactly the readers that wait, each once, and every reader that ran a
refresh has looked at the map and left the line. -/
structure Lined (s : Refreshers) : Prop where
  nodup : s.line.Nodup
  waiting : ∀ d, s.phase d = .waiting ↔ d ∈ s.line
  logged : ∀ x ∈ s.log, s.phase x.reader ≠ .idle ∧ s.phase x.reader ≠ .waiting

section Lined

variable {g : Gateway} {s s' : Refreshers}

theorem Lined.init (g : Gateway) : Lined (init g) where
  nodup := List.nodup_nil
  waiting := fun _ => ⟨nofun, fun h => absurd h List.not_mem_nil⟩
  logged := fun _ hx => absurd hx List.not_mem_nil

theorem Lined.not_mem (h : Lined s) {c : Nat} (hc : s.phase c ≠ .waiting) : c ∉ s.line :=
  fun hm => hc ((h.waiting c).2 hm)

/-- The reader holding the lock ran the latest refresh, so it is not in line. -/
theorem Lined.holder_not_mem (h : Lined s) (hi : Invariant g s) {c : Nat} {g₀ : Gateway}
    (hheld : s.holder = some (c, g₀)) : c ∉ s.line := by
  obtain ⟨rest, hlog, -⟩ := hi.held c g₀ hheld
  exact h.not_mem (h.logged _ (hlog ▸ List.mem_cons_self)).2

/-- Moving one reader to `p` keeps the line as it should be, when the new line holds that reader
exactly if `p` is waiting and is otherwise the old one, and every refresh in the new log was in
the old one or is that reader's own, in a phase past waiting. -/
theorem Lined.setPhase (h : Lined s) {c : Nat} {p : Phase}
    (hph : s'.phase = (s.setPhase c p).phase) (hnd : s'.line.Nodup)
    (hc : c ∈ s'.line ↔ p = .waiting) (hline : ∀ d, d ≠ c → (d ∈ s'.line ↔ d ∈ s.line))
    (hlog : ∀ x ∈ s'.log, x.reader = c ∨ ∃ y ∈ s.log, y.reader = x.reader)
    (hp : (∃ x ∈ s'.log, x.reader = c) → p ≠ .idle ∧ p ≠ .waiting) : Lined s' where
  nodup := hnd
  waiting := by
    intro d
    rw [hph, setPhase_phase]
    by_cases hdc : d = c
    · rw [if_pos hdc, hdc, hc]
    · rw [if_neg hdc, hline d hdc]
      exact h.waiting d
  logged := by
    intro x hx
    rw [hph, setPhase_phase]
    by_cases hxc : x.reader = c
    · rw [if_pos hxc]
      exact hp ⟨x, hx, hxc⟩
    · rw [if_neg hxc]
      obtain hxc' | ⟨y, hy, hyx⟩ := hlog x hx
      · exact absurd hxc' hxc
      · exact hyx ▸ h.logged y hy

/-- A reader past waiting, with the lock free, moves on and leaves the line as it was. -/
theorem Lined.pass (h : Lined s) {c : Nat} {p : Phase} (hc : c ∉ s.line)
    (hph : s'.phase = (s.setPhase c p).phase) (hl : s'.line = s.line)
    (hlog : ∀ x ∈ s'.log, ∃ y ∈ s.log, y.reader = x.reader) (hp : p ≠ .idle ∧ p ≠ .waiting) :
    Lined s' :=
  h.setPhase hph (hl ▸ h.nodup) (hl ▸ ⟨fun hm => absurd hm hc, fun hw => absurd hw hp.2⟩)
    (fun _ _ => hl ▸ Iff.rfl) (fun x hx => .inr (hlog x hx)) fun _ => hp

/-- **Every event keeps the line.** -/
theorem Lined.moves (h : Lined s) (hi : Invariant g s) (hm : Moves s s') : Lined s' := by
  -- the reader an event moves, if it was idle, was not in line and had run no refresh
  have hidle : ∀ c, s.phase c = .idle → c ∉ s.line ∧ ∀ x ∈ s.log, x.reader ≠ c :=
    fun c hc => ⟨h.not_mem (by rw [hc]; decide),
      fun x hx hxc => (h.logged x hx).1 (hxc ▸ hc)⟩
  cases hm with
  | queue c hc hw =>
    obtain ⟨hcl, hcx⟩ := hidle c hc
    refine h.setPhase rfl ?_ ?_ ?_ (fun x hx => .inr ⟨x, hx, rfl⟩) ?_
    · exact (List.perm_append_singleton c s.line).nodup_iff.2 (List.nodup_cons.2 ⟨hcl, h.nodup⟩)
    · exact ⟨fun _ => rfl, fun _ => List.mem_append_right _ (List.mem_singleton_self c)⟩
    · intro d hdc
      rw [List.mem_append, List.mem_singleton]
      exact ⟨fun hd => hd.resolve_right hdc, .inl⟩
    · rintro ⟨x, hx, hxc⟩
      exact absurd hxc (hcx x hx)
  | skip c hc hw =>
    obtain ⟨hcl, hcx⟩ := hidle c hc
    refine h.setPhase rfl h.nodup ⟨fun hm => absurd hm hcl, nofun⟩ (fun _ _ => Iff.rfl)
      (fun x hx => .inr ⟨x, hx, rfl⟩) ?_
    rintro ⟨x, hx, hxc⟩
    exact absurd hxc (hcx x hx)
  | start c rest hfree hline hst =>
    obtain ⟨hcr, hnd⟩ := List.nodup_cons.1 (hline ▸ h.nodup)
    refine h.setPhase rfl hnd ⟨fun hm => absurd hm hcr, nofun⟩ ?_ ?_ fun _ => ⟨nofun, nofun⟩
    · intro d hdc
      rw [hline, List.mem_cons]
      exact ⟨.inr, fun hd => hd.resolve_left hdc⟩
    · intro x hx
      rcases List.mem_cons.1 hx with rfl | hx
      · exact .inl rfl
      · exact .inr ⟨x, hx, rfl⟩
  | recheck c rest hfree hline hst =>
    obtain ⟨hcr, hnd⟩ := List.nodup_cons.1 (hline ▸ h.nodup)
    refine h.setPhase rfl hnd ⟨fun hm => absurd hm hcr, nofun⟩ ?_
      (fun x hx => .inr ⟨x, hx, rfl⟩) fun _ => ⟨nofun, nofun⟩
    intro d hdc
    rw [hline, List.mem_cons]
    exact ⟨.inr, fun hd => hd.resolve_left hdc⟩
  | complete c g₀ hheld hend =>
    exact h.pass (h.holder_not_mem hi hheld) rfl rfl (fun _ hx => reader_of_mem_closeLatest hx)
      ⟨nofun, nofun⟩
  | drop c hc =>
    exact h.pass (hidle c hc).1 rfl rfl (fun x hx => ⟨x, hx, rfl⟩) ⟨nofun, nofun⟩
  | leave c hc =>
    refine h.setPhase rfl (h.nodup.erase c) ⟨fun hm => absurd hm (h.nodup.not_mem_erase), nofun⟩
      (fun d hdc => List.mem_erase_of_ne hdc) (fun x hx => .inr ⟨x, hx, rfl⟩)
      fun _ => ⟨nofun, nofun⟩
  | cut c g₀ g' e hheld hcut =>
    exact h.pass (h.holder_not_mem hi hheld) rfl rfl (fun _ hx => reader_of_mem_closeLatest hx)
      ⟨nofun, nofun⟩
  | tick t hle hq => exact ⟨h.nodup, h.waiting, h.logged⟩

end Lined

/-! ## Readers in line when a refresh completes -/

/-- A map stamped at this very instant is fresh, when the time-to-live is positive. -/
theorem Router.isStale_of_stamped {r : Router} {t : Nat} (hpos : 0 < r.ttlSecs)
    (h : r.lastRefresh = some t) : r.isStale t = false := by
  unfold Router.isStale
  rw [h]
  simp only [Nat.sub_self, ge_iff_le, decide_eq_false_iff_not, Nat.not_le]
  omega

/-- Reader `c` has looked at the map and has run no refresh, and while it waits, the lock stays
free and the map stays stamped at the current instant. -/
structure Passed (c : Nat) (s : Refreshers) : Prop where
  asked : s.phase c ≠ .idle
  unlogged : ∀ x ∈ s.log, x.reader ≠ c
  fresh : s.phase c = .waiting →
    s.holder = none ∧ s.gateway.router.lastRefresh = some s.gateway.clock

section Passed

variable {g : Gateway} {s s' : Refreshers} {c : Nat}

/-- A move after which `c` is past waiting. -/
theorem Passed.past (hph : s'.phase c ≠ .idle ∧ s'.phase c ≠ .waiting)
    (hlog : ∀ x ∈ s'.log, x.reader ≠ c) : Passed c s' :=
  ⟨hph.1, hlog, fun hw => absurd hw hph.2⟩

/-- A move that sets one reader's phase past waiting, when `c` is that reader or was past
waiting already. -/
theorem Passed.past_setPhase {s₀ : Refreshers} {d : Nat} {p : Phase}
    (hph : s'.phase = (s₀.setPhase d p).phase) (hp : p ≠ .idle ∧ p ≠ .waiting)
    (hc : d ≠ c → s₀.phase c ≠ .idle ∧ s₀.phase c ≠ .waiting)
    (hlog : ∀ x ∈ s'.log, x.reader ≠ c) : Passed c s' := by
  refine Passed.past ?_ hlog
  rw [hph, setPhase_phase]
  by_cases hcd : c = d
  · rw [if_pos hcd]
    exact hp
  · rw [if_neg hcd]
    exact hc (Ne.symm hcd)

/-- A move of another reader than `c` that leaves the log, the lock and the gateway alone. -/
theorem Passed.other (h : Passed c s) {d : Nat} {p : Phase}
    (hph : s'.phase = (s.setPhase d p).phase) (hdc : d ≠ c) (hlog : s'.log = s.log)
    (hh : s'.holder = s.holder) (hg : s'.gateway = s.gateway) : Passed c s' := by
  have hc : s'.phase c = s.phase c := by rw [hph, setPhase_phase, if_neg (Ne.symm hdc)]
  refine ⟨hc ▸ h.asked, hlog ▸ h.unlogged, fun hw => ?_⟩
  rw [hh, hg]
  exact h.fresh (hc ▸ hw)

/-- The readers of a closed log that ran no refresh before still have not. -/
theorem Passed.unlogged_close (h : Passed c s) (e : Ending) :
    ∀ x ∈ closeLatest s.log e, x.reader ≠ c := fun x hx => by
  obtain ⟨y, hy, hyx⟩ := reader_of_mem_closeLatest hx
  exact hyx ▸ h.unlogged y hy

/-- **Every event keeps a waiting reader from refreshing.** While `c` waits, the lock is free
and the map is fresh, so every reader ahead of it returns without a refresh, and time cannot
move on; once `c` takes the lock it returns as well, or it leaves the line. -/
theorem Passed.moves (hpos : 0 < g.router.ttlSecs) (hi : Invariant g s) (hl : Lined s)
    (h : Passed c s) (hm : Moves s s') : Passed c s' := by
  have hstale : s.phase c = .waiting → s.gateway.router.isStale s.gateway.clock = false :=
    fun hw => Router.isStale_of_stamped (hi.ttl ▸ hpos) (h.fresh hw).2
  -- an idle reader is another one than `c`
  have hidle : ∀ d, s.phase d = .idle → d ≠ c := fun d hd hdc => h.asked (hdc ▸ hd)
  -- and while the lock is held, `c` is not waiting
  have hheld : ∀ d g₀, s.holder = some (d, g₀) → s.phase c ≠ .waiting :=
    fun d g₀ hd hw => by rw [(h.fresh hw).1] at hd; cases hd
  cases hm with
  | queue d hd hw => exact h.other rfl (hidle d hd) rfl rfl rfl
  | skip d hd hw => exact h.other rfl (hidle d hd) rfl rfl rfl
  | start d rest hfree hline hst =>
    -- the map is stale, so `c` is not waiting, and the reader that starts is another one
    have hcw : s.phase c ≠ .waiting := fun hw => by rw [hstale hw] at hst; cases hst
    have hdc : d ≠ c := fun hdc =>
      hcw ((hl.waiting c).2 (hdc ▸ hline ▸ List.mem_cons_self))
    refine Passed.past_setPhase rfl ⟨nofun, nofun⟩ (fun _ => ⟨h.asked, hcw⟩) ?_
    intro x hx
    rcases List.mem_cons.1 hx with rfl | hx
    · exact hdc
    · exact h.unlogged x hx
  | recheck d rest hfree hline hst =>
    by_cases hdc : d = c
    · exact Passed.past_setPhase rfl ⟨nofun, nofun⟩ (absurd hdc) h.unlogged
    · exact h.other rfl hdc rfl rfl rfl
  | complete d g₀ hd hend =>
    exact Passed.past_setPhase rfl ⟨nofun, nofun⟩ (fun _ => ⟨h.asked, hheld d g₀ hd⟩)
      (h.unlogged_close _)
  | drop d hd => exact h.other rfl (hidle d hd) rfl rfl rfl
  | leave d hd =>
    by_cases hdc : d = c
    · exact Passed.past_setPhase rfl ⟨nofun, nofun⟩ (absurd hdc) h.unlogged
    · exact h.other rfl hdc rfl rfl rfl
  | cut d g₀ g' e hd hcut =>
    exact Passed.past_setPhase rfl ⟨nofun, nofun⟩ (fun _ => ⟨h.asked, hheld d g₀ hd⟩)
      (h.unlogged_close _)
  | tick t hle hq =>
    -- time does not move on while `c` waits for a free lock
    have hcw : s.phase c ≠ .waiting := fun hw => by
      have hc : c ∈ s.line := (hl.waiting c).1 hw
      unfold quietUntil at hq
      rw [(h.fresh hw).1, List.isEmpty_iff] at hq
      rw [hq] at hc
      exact absurd hc List.not_mem_nil
    exact Passed.past ⟨h.asked, hcw⟩ h.unlogged

/-- **A reader in line when a refresh completes never refreshes.** From a reachable state in
which the lock is free and the map was stamped at this very instant, with a positive
time-to-live, no reader then in line runs a refresh in any run that follows. -/
theorem Passed.run (hpos : 0 < g.router.ttlSecs) (hi : Invariant g s) (hl : Lined s)
    (hc : c ∈ s.line) (hfree : s.holder = none)
    (hstamp : s.gateway.router.lastRefresh = some s.gateway.clock) {events : List Event}
    (hr : s.run events = some s') : ∀ x ∈ s'.log, x.reader ≠ c := by
  have hw : s.phase c = .waiting := (hl.waiting c).2 hc
  have hp : Passed c s :=
    ⟨by rw [hw]; decide, fun x hx hxc => (hl.logged x hx).2 (hxc ▸ hw), fun _ => ⟨hfree, hstamp⟩⟩
  have := run_induction (P := fun s => Invariant g s ∧ Lined s ∧ Passed c s)
    (fun ⟨hi, hl, hp⟩ hm => ⟨hi.moves hm, hl.moves hi hm, hp.moves hpos hi hl hm⟩)
    ⟨hi, hl, hp⟩ hr
  exact this.2.2.unlogged

end Passed

/-! ## At most one refresh per time-to-live -/

/-- **One refresh per window, besides those cut short.** In a log kept apart with a positive
time-to-live, where each refresh ended no sooner than it started, every refresh that started
in a window of one time-to-live was cut short, except the latest of them. -/
theorem window_length_le {ttlMs : Nat} (hpos : 0 < ttlMs) {log : List Entry}
    (h : log.Pairwise (Apart ttlMs)) (hspan : ∀ x ∈ log, ∀ t, x.endsAt = some t → x.start ≤ t)
    (a : Nat) :
    (log.filter (Entry.startsIn · a ttlMs)).length ≤
      1 + ((log.filter (Entry.startsIn · a ttlMs)).filter Entry.wasCut).length := by
  have hw : (log.filter (Entry.startsIn · a ttlMs)).Pairwise (Apart ttlMs) := h.filter _
  have hin : ∀ x ∈ log.filter (Entry.startsIn · a ttlMs),
      x ∈ log ∧ a ≤ x.start ∧ x.start < a + ttlMs := by
    intro x hx
    obtain ⟨hx, hxa⟩ := List.mem_filter.1 hx
    simp only [Entry.startsIn, Bool.and_eq_true, decide_eq_true_eq] at hxa
    exact ⟨hx, hxa⟩
  cases hW : log.filter (Entry.startsIn · a ttlMs) with
  | nil => exact Nat.zero_le _
  | cons y ys =>
    rw [hW] at hw hin
    -- an earlier refresh in the window that completed would have kept the latest one out of it
    have hcut : ∀ x ∈ ys, x.wasCut = true := by
      intro x hx
      obtain ⟨⟨t, ht, -⟩, hT⟩ := List.rel_of_pairwise_cons hw hx
      obtain ⟨hxlog, hxa, -⟩ := hin x (List.mem_cons_of_mem _ hx)
      obtain ⟨-, -, hya⟩ := hin y List.mem_cons_self
      unfold Entry.endsAt at ht
      unfold Entry.wasCut
      cases hen : x.ending with
      | none => rw [hen] at ht; cases ht
      | some en =>
        cases en with
        | cut t' => rfl
        | completed T =>
          have hgap := hT T (by unfold Entry.completedAt; rw [hen])
          have hxT := hspan x hxlog T (by unfold Entry.endsAt; rw [hen]; rfl)
          omega
    have hys : ys.filter Entry.wasCut = ys := List.filter_eq_self.2 hcut
    calc (y :: ys).length = 1 + (ys.filter Entry.wasCut).length := by
          rw [hys, List.length_cons, Nat.add_comm]
      _ ≤ 1 + ((y :: ys).filter Entry.wasCut).length :=
          Nat.add_le_add_left ((List.sublist_cons_self y ys).filter _).length_le 1

/-! ## Every run -/

/-- Every state a run reaches from `init g` keeps the invariant and the line. -/
theorem reachable {g : Gateway} {events : List Event} {s : Refreshers}
    (hrun : (init g).run events = some s) : Invariant g s ∧ Lined s :=
  run_induction (P := fun s => Invariant g s ∧ Lined s)
    (fun ⟨hi, hl⟩ hm => ⟨hi.moves hm, hl.moves hi hm⟩) ⟨Invariant.init g, Lined.init g⟩ hrun

/-- **Lazy refreshes run one at a time.** In every run of the readers of one router, from any
gateway and under any order of events:

* every lazy refresh had ended by the time a later one started;
* every refresh started a time-to-live or more after each earlier completed refresh, and after
  the stamp the router began with; so, with a positive time-to-live, the refreshes that start in
  any window of that length are one, besides those cut short;
* with a positive time-to-live, a reader in line when a refresh has just completed (the lock
  free, the map stamped at this instant) runs no refresh in any run that follows;
* every scripted client has been probed once per lazy refresh started;
* with no time-to-live, every reader that returned ran a complete refresh of its own. -/
theorem lazy_refreshes_one_at_a_time (g : Gateway) (events : List Event) (s : Refreshers)
    (hrun : (init g).run events = some s) :
    s.log.Pairwise (fun later earlier => ∃ t, earlier.endsAt = some t ∧ t ≤ later.start) ∧
    s.log.Pairwise (fun later earlier =>
      ∀ T, earlier.completedAt = some T → g.router.ttlSecs * 1000 ≤ later.start - T) ∧
    (∀ x ∈ s.log, ∀ L, g.router.lastRefresh = some L →
      g.router.ttlSecs * 1000 ≤ x.start - L) ∧
    (0 < g.router.ttlSecs → ∀ a,
      (s.log.filter (Entry.startsIn · a (g.router.ttlSecs * 1000))).length ≤
        1 + ((s.log.filter (Entry.startsIn · a (g.router.ttlSecs * 1000))).filter
          Entry.wasCut).length) ∧
    (0 < g.router.ttlSecs → ∀ c ∈ s.line, s.holder = none →
      s.gateway.router.lastRefresh = some s.gateway.clock →
      ∀ later s', s.run later = some s' → ∀ x ∈ s'.log, x.reader ≠ c) ∧
    (∀ q, s.gateway.registry.probesOf q = (g.registry.probesOf q).map (· + s.log.length)) ∧
    (g.router.ttlSecs = 0 → g.router.autoRefresh = true → s.AllRefreshed) := by
  obtain ⟨h, hl⟩ := reachable hrun
  refine ⟨h.apart.imp fun hxy => hxy.1, h.apart.imp fun hxy => hxy.2, h.fromStamp,
    fun hpos a => window_length_le ?_ h.apart h.span a,
    fun hpos c hc hfree hstamp _ _ hr => Passed.run hpos h hl hc hfree hstamp hr,
    h.probes, h.allRefreshed⟩
  omega

/-- Two readers find the map of a gateway with one scripted client stale at once. The first
refreshes while the second waits for the lock; once the refresh has completed, the second finds
the map fresh and returns. One refresh ran, and the client was probed once. -/
theorem stale_readers_share_one_refresh :
    let b : ScriptedBackend :=
      { provider := .openai, standing := .text "pong", probeDelayMs := some 20 }
    let g : Gateway :=
      { registry := { entries := [(.openai, { client := .scripted b })] },
        router := { rng := Random.Rng.ofSeed 0, ttlSecs := 1 },
        store := .counting {} }
    let events := [Event.ask 0, .ask 1, .acquire, .advance 20, .finish, .acquire]
    ∃ s, (init g).run events = some s ∧ s.log.length = 1 ∧ s.phase 1 = .returned ∧
      ∀ q, s.gateway.registry.probesOf q = (g.registry.probesOf q).map (· + 1) := by
  intro b g events
  exact ⟨_, rfl, rfl, rfl, (lazy_refreshes_one_at_a_time g events _ rfl).2.2.2.2.2.1⟩

end Refreshers

end QueryRelay
