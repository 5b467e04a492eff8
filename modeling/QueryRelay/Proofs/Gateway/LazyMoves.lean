import QueryRelay.Gateway.Lazy
import QueryRelay.Proofs.Gateway.Stages

/-!
# What the events of a lazy refresh do

`Gateway.Lazy` describes the readers of one router as a state machine whose events are written
as one function, `Refreshers.step`. This file takes that function apart once, so that the facts
about its runs are proved by cases on what an event did rather than on how `step` computes it.

* A refresh run to its end leaves the gateway of `Gateway.refreshFrom` with no context: every
  client probed, the map rewritten and the last answer stamped (`Refreshers.completed_eq`). One
  cut short by a context that ends at `t` stops at `t`, having probed every client and changed
  only the map (`Refreshers.cutShort_eq`).
* The log of refreshes is read through the instant each one ended, or completed, and whether
  it was cut short (`Refreshers.Entry.endsAt` and the definitions beside it).
* Every event that can happen moves the readers as one of the branches of `Refreshers.Moves`
  says (`Refreshers.moves_of_step`), and a property that every move keeps is kept by every run
  (`Refreshers.run_induction`).
-/

namespace QueryRelay

open Gateway

/-- The last answer of a refresh comes in no sooner than the refresh started. -/
theorem Gateway.le_probeFinish (g : Gateway) : g.clock ≤ probeFinish g := by
  unfold probeFinish
  -- the running maximum only grows along the answers
  suffices h : ∀ (L : List (Provider × Nat × Bool)) m, m ≤ L.foldl (fun m a => max m a.2.1) m from
    h _ g.clock
  intro L
  induction L with
  | nil => exact fun m => Nat.le_refl m
  | cons a rest ih => exact fun m => Nat.le_trans (Nat.le_max_left m a.2.1) (ih _)

namespace Router

/-- With no time-to-live the map is stale at every instant. -/
theorem isStale_of_ttl_zero {r : Router} (h : r.ttlSecs = 0) (t : Nat) : r.isStale t = true := by
  unfold isStale
  split
  · rfl
  · rw [h, Nat.zero_mul]
    exact decide_eq_true (Nat.zero_le _)

theorem wantsRefresh_of_ttl_zero {r : Router} (h : r.ttlSecs = 0) (ha : r.autoRefresh = true)
    (t : Nat) : r.wantsRefresh t = true := by
  unfold wantsRefresh
  rw [ha, isStale_of_ttl_zero h]
  rfl

/-- A map stale at `now` was stamped, if ever, a time-to-live or more before `now`. -/
theorem ttl_le_of_isStale {r : Router} {now L : Nat} (h : r.isStale now = true)
    (hL : r.lastRefresh = some L) : r.ttlSecs * 1000 ≤ now - L := by
  unfold isStale at h
  rw [hL] at h
  exact of_decide_eq_true h

end Router

namespace Refreshers

/-! ## What a lazy refresh leaves -/

/-- A refresh run to its end: every client probed, every answer recorded, and the instant of
the last answer stamped. -/
theorem completed_eq (g : Gateway) :
    completed g = { g with
      registry := probedRegistry g
      router := { recordAnswers (fun _ => true) g with lastRefresh := some (probeFinish g) }
      clock := probeFinish g } :=
  congrArg Prod.snd (exec_refreshFrom none g)

@[simp] theorem completed_registry (g : Gateway) : (completed g).registry = probedRegistry g := by
  rw [completed_eq]

@[simp] theorem completed_clock (g : Gateway) : (completed g).clock = probeFinish g := by
  rw [completed_eq]

/-- A complete refresh rewrites the router's map and stamps its last answer, and keeps every
other setting. -/
theorem completed_router (g : Gateway) :
    (completed g).router =
      { g.router with up := (completed g).router.up, lastRefresh := some (probeFinish g) } := by
  rw [completed_eq, recordAnswers_eq]

/-- A context that ends at `t` stops a wait, if it does, at `t`. -/
theorem stops_at_endingAt {t s v : Nat} {w : Option Nat} {e f : Failure} {c : Context}
    (hc : endingAt t e = some c) (h : c.waitFrom s w = .stopped v f) : v = t := by
  unfold endingAt at hc
  split at hc
  · cases hc
    unfold Context.waitFrom at h
    dsimp only at h
    split at h
    · cases h
      rfl
    · exact absurd (Context.deadline_of_deadlineOrWork h).2 nofun
  · cases hc
    exact (Option.some.inj (Context.deadline_of_deadlineOrWork h).2).symm
  · cases hc

/-- A refresh cut short by a context that ends at `t` has probed every client, stopped at `t`,
and changed only the router's map. -/
theorem cutShort_eq {g g' : Gateway} {t : Nat} {e : Failure} (h : cutShort g t e = some g') :
    g'.registry = probedRegistry g ∧ g'.clock = t ∧ g'.router = { g.router with up := g'.router.up } := by
  unfold cutShort at h
  split at h
  · rename_i c hc
    split at h
    · rename_i f g'' hrun
      have hx : (refreshFrom (some c)).exec g = (.ok (.error f), g') := Option.some.inj h ▸ hrun
      rw [exec_refreshFrom] at hx
      split at hx
      · rename_i v f' hstop
        cases hx
        exact ⟨rfl, stops_at_endingAt hc hstop, by rw [recordAnswers_eq]⟩
      · cases hx
    · cases h
  · cases h

/-! ## The log -/

namespace Ending

/-- The instant a refresh ended. -/
def time : Ending → Nat
  | .completed t => t
  | .cut t => t

/-- The router's last refresh once a refresh ends this way, from `old`: a completion stamps its
instant, a cut leaves the stamp as it was. -/
def stamp : Ending → Option Nat → Option Nat
  | .completed t, _ => some t
  | .cut _, old => old

end Ending

namespace Entry

/-- The instant a logged refresh ended, if it has. -/
def endsAt (x : Entry) : Option Nat := x.ending.map Ending.time

/-- The instant a logged refresh completed, if it did. -/
def completedAt (x : Entry) : Option Nat :=
  match x.ending with
  | some (.completed t) => some t
  | _ => none

/-- Whether a logged refresh was cut short. -/
def wasCut (x : Entry) : Bool :=
  match x.ending with
  | some (.cut _) => true
  | _ => false

/-- Whether a logged refresh started within the window of length `len` from `a`. -/
def startsIn (x : Entry) (a len : Nat) : Bool := decide (a ≤ x.start) && decide (x.start < a + len)

theorem endsAt_of_completedAt {x : Entry} {T : Nat} (h : x.completedAt = some T) :
    x.endsAt = some T := by
  unfold completedAt at h
  unfold endsAt
  split at h
  · rename_i t hx
    cases h
    rw [hx]
    rfl
  · cases h

theorem endsAt_of_isSome {x : Entry} (h : x.ending.isSome) : ∃ t, x.endsAt = some t := by
  obtain ⟨en, hen⟩ := Option.isSome_iff_exists.1 h
  exact ⟨en.time, by rw [endsAt, hen]; rfl⟩

end Entry

@[simp] theorem closeLatest_cons (x : Entry) (rest : List Entry) (e : Ending) :
    closeLatest (x :: rest) e = { x with ending := some e } :: rest := rfl


/-! ## What an event does -/

/-- What an event that can happen does: one constructor for each branch of `step`. -/
inductive Moves (s : Refreshers) : Refreshers → Prop where
  /-- A reader finds the map stale and gets in line. -/
  | queue (c : Nat) (hc : s.phase c = .idle)
      (hw : s.gateway.router.wantsRefresh s.gateway.clock = true) :
      Moves s { s.setPhase c .waiting with line := s.line ++ [c] }
  /-- A reader finds the map fresh, or a router that does not refresh on its own, and returns. -/
  | skip (c : Nat) (hc : s.phase c = .idle)
      (hw : s.gateway.router.wantsRefresh s.gateway.clock = false) :
      Moves s (s.setPhase c .returned)
  /-- The first reader in line takes the lock, finds the map still stale and starts a refresh. -/
  | start (c : Nat) (rest : List Nat) (hfree : s.holder = none) (hline : s.line = c :: rest)
      (hst : s.gateway.router.isStale s.gateway.clock = true) :
      Moves s { s.setPhase c .refreshing with
        gateway := { s.gateway with registry := (completed s.gateway).registry }
        line := rest
        holder := some (c, s.gateway)
        log := ⟨c, s.gateway.clock, none⟩ :: s.log }
  /-- The first reader in line takes the lock, finds the map fresh and returns. -/
  | recheck (c : Nat) (rest : List Nat) (hfree : s.holder = none) (hline : s.line = c :: rest)
      (hst : s.gateway.router.isStale s.gateway.clock = false) :
      Moves s { s.setPhase c .returned with line := rest }
  /-- The running refresh gets its last answer. -/
  | complete (c : Nat) (g₀ : Gateway) (hheld : s.holder = some (c, g₀))
      (hend : (completed g₀).clock = s.gateway.clock) :
      Moves s { s.setPhase c .returned with
        gateway := completed g₀
        holder := none
        log := closeLatest s.log (.completed s.gateway.clock) }
  /-- A reader's context ends before it looks at the map. -/
  | drop (c : Nat) (hc : s.phase c = .idle) : Moves s (s.setPhase c .abandoned)
  /-- A reader's context ends while it waits in line. -/
  | leave (c : Nat) (hc : s.phase c = .waiting) :
      Moves s { s.setPhase c .abandoned with line := s.line.erase c }
  /-- The refreshing reader's context ends and cuts its refresh short. -/
  | cut (c : Nat) (g₀ g' : Gateway) (e : Failure) (hheld : s.holder = some (c, g₀))
      (hcut : cutShort g₀ s.gateway.clock e = some g') :
      Moves s { s.setPhase c .abandoned with
        gateway := g'
        holder := none
        log := closeLatest s.log (.cut s.gateway.clock) }
  /-- Time moves on. -/
  | tick (t : Nat) (hle : s.gateway.clock ≤ t) (hq : s.quietUntil t = true) :
      Moves s { s with gateway := { s.gateway with clock := t } }

/-- **What a step does.** Every event that can happen moves the readers as one of the branches
of `Moves` says. -/
theorem moves_of_step {s s' : Refreshers} {ev : Event} (h : s.step ev = some s') : Moves s s' := by
  cases ev with
  | ask c =>
    rw [step] at h
    split at h
    · rename_i hc
      split at h
      · rename_i hw
        cases h
        exact .queue c hc hw
      · rename_i hw
        cases h
        exact .skip c hc (Bool.eq_false_iff.2 hw)
    · cases h
  | acquire =>
    rw [step] at h
    split at h
    · rename_i c rest hfree hline
      split at h
      · rename_i hst
        cases h
        exact .start c rest hfree hline hst
      · rename_i hst
        cases h
        exact .recheck c rest hfree hline (Bool.eq_false_iff.2 hst)
    · cases h
  | finish =>
    rw [step] at h
    split at h
    · rename_i c g₀ hheld
      split at h
      · rename_i hend
        cases h
        exact .complete c g₀ hheld hend
      · cases h
    · cases h
  | quit c e =>
    rw [step] at h
    split at h
    · rename_i hc
      cases h
      exact .drop c hc
    · rename_i hc
      cases h
      exact .leave c hc
    · split at h
      · rename_i r g₀ hheld
        split at h
        · rename_i hrc
          subst hrc
          split at h
          · rename_i g' hcut
            cases h
            exact .cut r g₀ g' e hheld hcut
          · cases h
        · cases h
      · cases h
    · cases h
  | advance t =>
    rw [step] at h
    split at h
    · rename_i hq
      cases h
      rw [Bool.and_eq_true, decide_eq_true_eq] at hq
      exact .tick t hq.1 hq.2
    · cases h

/-- A property of states that every move keeps is kept by every run. -/
theorem run_induction {P : Refreshers → Prop} (hP : ∀ {s s'}, P s → Moves s s' → P s')
    {s s' : Refreshers} {events : List Event} (h : P s) (hr : s.run events = some s') : P s' := by
  -- on the events, from each state the run passes through
  induction events generalizing s with
  | nil =>
    rw [Refreshers.run] at hr
    cases hr
    exact h
  | cons ev rest ih =>
    rw [Refreshers.run] at hr
    cases hs : s.step ev with
    | none =>
      rw [hs] at hr
      cases hr
    | some s₁ =>
      rw [hs] at hr
      exact ih (hP h (moves_of_step hs)) hr

@[simp] theorem setPhase_phase (s : Refreshers) (c d : Nat) (p : Phase) :
    (s.setPhase c p).phase d = if d = c then p else s.phase d := rfl

/-- The readers of the closed log are those of the log. -/
theorem reader_of_mem_closeLatest {log : List Entry} {e : Ending} {x : Entry}
    (hx : x ∈ closeLatest log e) : ∃ y ∈ log, y.reader = x.reader := by
  cases log with
  | nil => exact absurd hx List.not_mem_nil
  | cons z rest =>
    rcases List.mem_cons.1 hx with rfl | hx
    · exact ⟨z, List.mem_cons_self, rfl⟩
    · exact ⟨x, List.mem_cons_of_mem _ hx, rfl⟩

end Refreshers

end QueryRelay
