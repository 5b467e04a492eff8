import Mathlib
import QueryRelay.Proofs.Gateway.Calls
import QueryRelay.Proofs.Keyed
import QueryRelay.Gateway.Fanout

/-!
# Call counters

Beside each client the registry keeps three counters: the calls counted, the calls failed, and
the latency of the last success. This module says exactly what moves them.

## One call at a time

A call of a provider's client ends in one of four ways (`CallEnd`), and how the registry counts
it depends on that end and on who waited for it (`CallEnd.tally`). A completion counts as a
success, with the latency from the call's start to its end. A failure counts as a failure
unless it is the context's own (cancelled, or past the deadline). A crash counts as a failure
in a fan-out's task, where the task's panic is caught, and not at all in a query's own flow,
which it stops. A call that never ends counts nothing.

A *trace* of the registry (`Registry.Trace`) is a sequence of such calls, each of the client the
provider holds at that point, and of probes of every client, which replace the clients and
touch no counter. At the end of a trace each provider's counters are those at its start with
the provider's calls counted in turn (`Registry.statsOf_of_trace`), and registering a client
starts them afresh (`Registry.statsOf_register`).

## Every run is a trace

Traces are a way the registry may move (`Registry.tallied_moves`): a run of no call is the
empty trace, two runs one after the other join their traces, and a probe is a step. So the
operations that only probe move the registry by a trace, and what is left is the two that call:
`Gateway.invoke` and `Gateway.runUnit` are one call each (`invoke_registry`,
`runUnit_registry`). Every query and every fan-out, and every sequence of them, ends in a
registry that a trace of its calls reaches from the one it began with (`tallied_serveAll`).

## What the counters say

Counting a log of calls adds its counted calls to the total and its failures to the failed
calls, and leaves the latency of its last success (`CallStats.total_countAll`,
`CallStats.failed_countAll`, `CallStats.lastLatencyMs_countAll`). The counters are 64-bit and
wrap; while fewer than `2 ^ 64` calls are counted, the failed calls never exceed the total
(`CallStats.failed_le_total_countAll`).
-/

namespace QueryRelay

/-! ## Counting one call -/

/-- How a call is counted: a success with its latency, or a failure. -/
inductive Tally where
  | success (latencyMs : Nat)
  | failure
  deriving DecidableEq, Repr

/-- How the registry counts a call waited for by `w` from `s` that ended so. -/
def CallEnd.tally (w : Waiter) (s : Nat) : CallEnd → Option Tally
  | .answered t (.ok _) => some (.success (t - s))
  | .answered _ (.error e) => if e.isCancellation then none else some .failure
  | .crashed _ _ => if w = .task then some .failure else none
  | .never => none

/-- A call the gateway made: of whose client, waited for how, from when, and how it ended. -/
structure CallRecord where
  provider : Provider
  waiter : Waiter
  start : Nat
  ending : CallEnd

namespace CallRecord

/-- How the registry counts the call. -/
def tally (r : CallRecord) : Option Tally := r.ending.tally r.waiter r.start

/-- The latency the call was counted with, if it was counted as a success. -/
def latency? (r : CallRecord) : Option Nat :=
  match r.tally with
  | some (.success l) => some l
  | _ => none

end CallRecord

namespace CallStats

/-- Count one call, if it counts. -/
def count (s : CallStats) : Option Tally → CallStats
  | none => s
  | some (.success l) => s.success l
  | some .failure => s.failure

/-- Count the calls of a log in turn. -/
def countAll (s : CallStats) (log : List CallRecord) : CallStats :=
  log.foldl (fun s r => s.count r.tally) s

@[simp] theorem countAll_nil (s : CallStats) : s.countAll [] = s := rfl

@[simp] theorem countAll_cons (s : CallStats) (r : CallRecord) (log : List CallRecord) :
    s.countAll (r :: log) = (s.count r.tally).countAll log := rfl

theorem total_countAll (s : CallStats) (log : List CallRecord) :
    (s.countAll log).total = s.total + (log.countP (·.tally.isSome)).toUInt64 := by
  induction log generalizing s with
  | nil => simp
  | cons r log ih =>
    rw [countAll_cons, ih, List.countP_cons]
    rcases r.tally with _ | _ | _ <;>
      simp [count, success, failure, UInt64.ofNat_add, UInt64.add_assoc, UInt64.add_comm 1]

theorem failed_countAll (s : CallStats) (log : List CallRecord) :
    (s.countAll log).failed = s.failed + (log.countP (·.tally = some .failure)).toUInt64 := by
  induction log generalizing s with
  | nil => simp
  | cons r log ih =>
    rw [countAll_cons, ih, List.countP_cons]
    rcases r.tally with _ | _ | _ <;>
      simp [count, success, failure, UInt64.ofNat_add, UInt64.add_assoc, UInt64.add_comm 1]

theorem lastLatencyMs_countAll (s : CallStats) (log : List CallRecord) :
    (s.countAll log).lastLatencyMs =
      ((log.filterMap (·.latency?)).getLast?.map Nat.toUInt64).getD s.lastLatencyMs := by
  induction log generalizing s with
  | nil => rfl
  | cons r log ih =>
    rw [countAll_cons, ih, List.filterMap_cons]
    -- a call counted as a success sets the latency; any other keeps it
    rcases hr : r.tally with _ | _ | _
    · have hl : r.latency? = none := by simp [CallRecord.latency?, hr]
      rw [hl]
      rfl
    · rename_i l
      have hl : r.latency? = some l := by simp [CallRecord.latency?, hr]
      rw [hl, List.getLast?_cons]
      cases (log.filterMap (·.latency?)).getLast? <;> rfl
    · have hl : r.latency? = none := by simp [CallRecord.latency?, hr]
      rw [hl]
      rfl

/-- **Failed calls never exceed the total** while the total has not wrapped: from counters
whose failed calls are within the total, counting fewer calls than are left below `2 ^ 64`
keeps them so. -/
theorem failed_le_total_countAll {s : CallStats} (hs : s.failed ≤ s.total) (log : List CallRecord)
    (hlog : s.total.toNat + log.countP (·.tally.isSome) < 2 ^ 64) :
    (s.countAll log).failed ≤ (s.countAll log).total := by
  -- every call counted as a failure is counted
  have hle : log.countP (·.tally = some .failure) ≤ log.countP (·.tally.isSome) :=
    List.countP_mono_left fun r _ h => by simp_all
  have hs' : s.failed.toNat ≤ s.total.toNat := hs
  rw [total_countAll, failed_countAll, UInt64.le_iff_toNat_le, UInt64.toNat_add,
    UInt64.toNat_add, UInt64.toNat_ofNat', UInt64.toNat_ofNat']
  have hf : s.total.toNat < 2 ^ 64 := s.total.toNat_lt
  rw [Nat.mod_eq_of_lt (a := log.countP _) (by omega), Nat.mod_eq_of_lt (a := log.countP _)
    (by omega), Nat.mod_eq_of_lt (by omega), Nat.mod_eq_of_lt (by omega)]
  omega

end CallStats

/-! ## Counters in the registry -/

namespace Registry

/-- A provider's counters, if it has a client. -/
def statsOf (reg : Registry) (p : Provider) : Option CallStats := (reg.find? p).map (·.stats)

/-- Count a call of a provider, if it counts. -/
def count (reg : Registry) (p : Provider) : Option Tally → Registry
  | none => reg
  | some (.success l) => reg.recordSuccess p l
  | some .failure => reg.recordFailure p

theorem statsOf_modify (reg : Registry) (p : Provider) {f : Registration → Registration}
    (q : Provider) :
    (reg.modify p f).statsOf q =
      (reg.find? q).map (fun r => if q = p then (f r).stats else r.stats) := by
  unfold statsOf
  rw [find?_modify, Option.map_map]
  congr 1
  funext r
  split <;> rfl

@[simp] theorem statsOf_setClient (reg : Registry) (p : Provider) (c : Backend) (q : Provider) :
    (reg.setClient p c).statsOf q = reg.statsOf q := by
  unfold setClient
  rw [statsOf_modify]
  unfold statsOf
  congr 1
  funext r
  split <;> rfl

theorem statsOf_count (reg : Registry) (p : Provider) (t : Option Tally) (q : Provider) :
    (reg.count p t).statsOf q = (reg.statsOf q).map (fun s => if q = p then s.count t else s) := by
  unfold statsOf
  rw [Option.map_map]
  rcases t with _ | _ | _
  · simp only [count, CallStats.count, ite_self]
    rfl
  · unfold count recordSuccess
    rw [← statsOf, statsOf_modify]
    congr 1
  · unfold count recordFailure
    rw [← statsOf, statsOf_modify]
    congr 1

@[simp] theorem statsOf_probeAll (reg : Registry) (timeoutMs s : Nat) (q : Provider) :
    (Gateway.probeAll reg timeoutMs s).2.statsOf q = reg.statsOf q := by
  unfold statsOf
  rw [@find?_of_entries reg _ (fun _ r => { r with client := (r.client.probe timeoutMs s).2 })
    (Gateway.probeAll_entries reg timeoutMs s), Option.map_map]
  rfl

/-! ## Registering -/

/-- Registering a client starts its provider's counters afresh and leaves every other
provider's as they were. -/
theorem statsOf_register (reg : Registry) (c : Backend) (q : Provider) :
    (reg.register c).statsOf q = if q = c.provider then some {} else reg.statsOf q := by
  unfold statsOf find? register
  dsimp only
  split
  · rename_i hq
    subst hq
    rw [find?_insertKeyed_self]
    rfl
  · rename_i hq
    rw [find?_insertKeyed_of_ne _ _ _ hq]

/-! ## Traces -/

/-- A sequence of calls and probes from `reg` to `reg'`, with the calls it made. A call is one
of the client the provider holds at that point: the client is replaced by the one the call
left, and the call is counted as its end says. A probe of every client replaces the clients
and counts nothing. -/
inductive Trace : Registry → List CallRecord → Registry → Prop
  | nil (reg : Registry) : Trace reg [] reg
  | call {reg reg' : Registry} {log : List CallRecord} {p : Provider} {c : Backend}
      (hc : reg.client? p = some c) (w : Waiter) (ctx : Context) (s : Nat) (req : Request)
      (rest : Trace ((reg.setClient p (c.call w ctx s req).2).count p
        ((c.call w ctx s req).1.tally w s)) log reg') :
      Trace reg (⟨p, w, s, (c.call w ctx s req).1⟩ :: log) reg'
  | probe {reg reg' : Registry} {log : List CallRecord} (timeoutMs s : Nat)
      (rest : Trace (Gateway.probeAll reg timeoutMs s).2 log reg') : Trace reg log reg'

theorem Trace.trans {a b c : Registry} {l₁ l₂ : List CallRecord} (h₁ : Trace a l₁ b)
    (h₂ : Trace b l₂ c) : Trace a (l₁ ++ l₂) c := by
  induction h₁ with
  | nil => exact h₂
  | call hc w ctx s req _ ih => exact .call hc w ctx s req (ih h₂)
  | probe timeoutMs s _ ih => exact .probe timeoutMs s (ih h₂)

/-- **The counters follow the trace.** At the end of a trace, a provider's counters are those
at its start with the provider's calls counted in turn. -/
theorem statsOf_of_trace {reg reg' : Registry} {log : List CallRecord} (h : Trace reg log reg')
    (q : Provider) :
    reg'.statsOf q = (reg.statsOf q).map (·.countAll (log.filter (·.provider = q))) := by
  induction h with
  | nil reg =>
    rw [List.filter_nil]
    exact Option.map_id'.symm
  | @call reg reg' log p c hc w ctx s req rest ih =>
    rw [ih, statsOf_count, statsOf_setClient, Option.map_map]
    congr 1
    funext st
    by_cases hq : q = p
    · subst hq
      simp [CallRecord.tally]
    · simp [hq, Ne.symm hq]
  | probe timeoutMs s rest ih => rw [ih, statsOf_probeAll]

/-- From `reg` to `reg'` by some trace. -/
def Tallied (reg reg' : Registry) : Prop := ∃ log, Trace reg log reg'

end Registry

/-- A trace is a way the registry may move: it may be empty, two compose, and a probe is one. -/
theorem Registry.tallied_moves : RegistryMoves Registry.Tallied where
  refl reg := ⟨[], .nil reg⟩
  trans := fun ⟨l₁, h₁⟩ ⟨l₂, h₂⟩ => ⟨l₁ ++ l₂, h₁.trans h₂⟩
  probe _ timeoutMs s := ⟨[], .probe timeoutMs s (.nil _)⟩

namespace Gateway

open GatewayM

theorem movesRegistry_fanoutTargets {R : Registry → Registry → Prop} (hR : RegistryMoves R)
    (G : Context) (providers : List Provider) : MovesRegistry R (fanoutTargets G providers) := by
  unfold fanoutTargets
  split
  · refine MovesRegistry.bind hR (movesRegistry_availableWithin hR G) fun r => ?_
    rcases r with e | up
    · exact MovesRegistry.get_bind fun _ => MovesRegistry.pure hR _
    · exact MovesRegistry.pure hR _
  · exact MovesRegistry.pure hR _

/-! ### Calls -/

/-- A query's call of a provider leaves the registry with the provider's client replaced by
the one the call left and the call counted; a provider without a client is not called. -/
theorem invoke_registry (ctx : Context) (p : Provider) (req : Request) (g : Gateway) :
    ((invoke ctx p req).exec g).2.registry =
      match g.registry.client? p with
      | none => g.registry
      | some c => (g.registry.setClient p (c.call .flow ctx g.clock req).2).count p
          ((c.call .flow ctx g.clock req).1.tally .flow g.clock) := by
  unfold invoke
  rw [exec_get_bind]
  cases hc : g.registry.client? p with
  | none => rfl
  | some c =>
    dsimp only
    rcases hcall : c.call .flow ctx g.clock req with ⟨e, c'⟩
    dsimp only
    rw [exec_bind_of_ok (exec_modifyRegistry _ g)]
    cases e with
    | never => rfl
    | crashed t crash => rfl
    | answered t r =>
      rcases r with e | comp
      · dsimp only
        rw [exec_bind_of_ok (exec_advanceTo _ _)]
        by_cases hcancel : e.isCancellation = true
        · simp [hcancel, CallEnd.tally, Registry.count]
        · simp only [hcancel, CallEnd.tally, Bool.not_false, if_true]
          rfl
      · rfl

/-- A fan-out's task leaves the registry with the provider's client replaced by the one the
call left and the call counted, whether the task then ends or stops. -/
theorem runUnit_registry (G : Context) (req : Request) (s : Nat) (p : Provider) (c : Backend)
    (g : Gateway) :
    ((runUnit G req s p c).exec g).2.registry =
      (g.registry.setClient p (c.call .task G s req).2).count p
        ((c.call .task G s req).1.tally .task s) := by
  unfold runUnit
  rcases hcall : c.call .task G s req with ⟨e, c'⟩
  dsimp only
  rw [exec_bind_of_ok (exec_modifyRegistry _ g)]
  cases e with
  | never => rfl
  | crashed t crash => rfl
  | answered t r =>
    rcases r with e | comp
    · dsimp only
      by_cases hcancel : e.isCancellation = true
      · simp [hcancel, CallEnd.tally, Registry.count]
      · simp only [hcancel, CallEnd.tally, Bool.not_false, if_true]
        rfl
    · dsimp only
      rw [exec_bind_of_ok (exec_modifyRegistry _ _)]
      rcases Response.ofCompletion p comp (t - s) with crash | resp <;> rfl

/-! ### Every run is a trace -/

theorem tallied_invoke (ctx : Context) (p : Provider) (req : Request) :
    MovesRegistry Registry.Tallied (invoke ctx p req) := by
  intro g
  rw [invoke_registry]
  split
  · exact Registry.tallied_moves.refl _
  · rename_i c hc
    exact ⟨_, .call hc .flow ctx g.clock req (.nil _)⟩

theorem tallied_recover (ctx : Context) (req : Request) (started : Nat) (original : Provider)
    (err : Failure) : MovesRegistry Registry.Tallied (recover ctx req started original err) := by
  have hR := Registry.tallied_moves
  unfold recover
  split
  · exact MovesRegistry.pure hR _
  · split
    · rw [pure_bind]
      refine MovesRegistry.bind hR (movesRegistry_fallback hR ctx original req err) fun r => ?_
      rcases r with e | d
      · dsimp only
        split <;> exact MovesRegistry.pure hR _
      · dsimp only
        rw [pure_bind]
        refine MovesRegistry.bind hR (tallied_invoke ctx d.provider req) fun r => ?_
        rcases r with e | comp
        · dsimp only
          split
          · exact MovesRegistry.pure hR _
          · split <;> exact MovesRegistry.pure hR _
        · exact MovesRegistry.bind hR (movesRegistry_finish hR req _ comp started _)
            fun _ => MovesRegistry.pure hR _
    · exact MovesRegistry.pure hR _

theorem tallied_serveMiss (ctx : Context) (req : Request) (started : Nat) :
    MovesRegistry Registry.Tallied (serveMiss ctx req started) := by
  have hR := Registry.tallied_moves
  unfold serveMiss
  refine MovesRegistry.bind hR (movesRegistry_checkNow hR ctx) fun r => ?_
  rcases r with e | ⟨⟩
  · exact MovesRegistry.pure hR _
  · refine MovesRegistry.bind hR (movesRegistry_route hR ctx req) fun r => ?_
    rcases r with e | d
    · exact MovesRegistry.pure hR _
    · dsimp only
      rw [pure_bind]
      refine MovesRegistry.bind hR (tallied_invoke ctx d.provider req) fun r => ?_
      rcases r with err | comp
      · exact tallied_recover ctx req started d.provider err
      · exact MovesRegistry.bind hR (movesRegistry_finish hR req _ comp started none)
          fun _ => MovesRegistry.pure hR _

/-- A query moves the registry by a trace of its calls: its checks of the context, the store
and the building of its response touch no client. -/
theorem tallied_handleQuery (ctx : Context) (req : Request) :
    MovesRegistry Registry.Tallied (handleQuery ctx req) := by
  have hR := Registry.tallied_moves
  unfold handleQuery
  refine MovesRegistry.bind hR (movesRegistry_now hR) fun started => ?_
  refine MovesRegistry.bind hR (movesRegistry_checkNow hR ctx) fun r => ?_
  rcases r with e | ⟨⟩
  · exact MovesRegistry.pure hR _
  · refine MovesRegistry.bind hR (movesRegistry_storeGet hR req) fun r => ?_
    rcases r with e | _ | hit
    · exact tallied_serveMiss ctx req started
    · exact tallied_serveMiss ctx req started
    · exact MovesRegistry.bind hR (movesRegistry_now hR) fun _ => MovesRegistry.pure hR _

theorem tallied_runTargets (G : Context) (req : Request) (s : Nat) (ps : List Provider)
    (results : List (Provider × Outcome)) (finish : Nat) :
    MovesRegistry Registry.Tallied (runTargets G req s ps results finish) := by
  have hR := Registry.tallied_moves
  -- one target at a time: a target without a client is not called
  induction ps generalizing results finish with
  | nil => exact MovesRegistry.pure hR _
  | cons p ps ih =>
    unfold runTargets
    refine MovesRegistry.get_bind_at fun g => ?_
    split
    · exact ih _ _ g
    · rename_i c hc
      refine MovesRegistry.bind_at hR ?_ fun r => ih _ _
      rw [runUnit_registry]
      exact ⟨_, .call hc .task G s req (.nil _)⟩

/-- A fan-out counts the calls of its tasks, and nothing else: a target without a client is not
called. -/
theorem tallied_handleFanout (ctx : Context) (req : Request) (providers : List Provider)
    (timeout : Option Nat) :
    MovesRegistry Registry.Tallied (handleFanout ctx req providers timeout) := by
  have hR := Registry.tallied_moves
  unfold handleFanout
  refine MovesRegistry.bind hR (movesRegistry_now hR) fun started => ?_
  refine MovesRegistry.get_bind fun g => ?_
  refine MovesRegistry.bind hR (movesRegistry_fanoutTargets hR _ providers) fun targets => ?_
  refine MovesRegistry.bind hR (movesRegistry_now hR) fun s => ?_
  refine MovesRegistry.bind hR (tallied_runTargets _ req s _ [] s) fun r => ?_
  exact MovesRegistry.bind hR (movesRegistry_advanceTo hR _) fun _ => MovesRegistry.pure hR _

end Gateway

/-! ## Sequences of requests -/

/-- A request the gateway serves: a query, or a fan-out. -/
inductive Served where
  | query (ctx : Context) (req : Request)
  | fanout (ctx : Context) (req : Request) (providers : List Provider) (timeout : Option Nat)

/-- Serve the request, whatever it answers. -/
def Served.serve : Served → GatewayM Unit
  | .query ctx req => discard (Gateway.handleQuery ctx req)
  | .fanout ctx req providers timeout => discard (Gateway.handleFanout ctx req providers timeout)

/-- Serve requests one after the other; a stop ends the sequence. -/
def Gateway.serveAll (rs : List Served) : GatewayM Unit := rs.forM Served.serve

theorem Gateway.tallied_serveAll (rs : List Served) :
    MovesRegistry Registry.Tallied (serveAll rs) := by
  have hR := Registry.tallied_moves
  unfold serveAll
  -- one request after the other, each a trace of its own calls
  induction rs with
  | nil => exact MovesRegistry.pure hR _
  | cons r rs ih =>
    rw [List.forM]
    refine MovesRegistry.bind hR ?_ fun _ => ih
    cases r with
    | query ctx req => exact MovesRegistry.discard (tallied_handleQuery ctx req)
    | fanout ctx req providers timeout =>
      exact MovesRegistry.discard (tallied_handleFanout ctx req providers timeout)

/-! ## The counters of a run -/

/-- **Counters count calls.** Serving any sequence of queries and fan-outs leaves a registry
that a trace of its calls reaches: each call is one of the client its provider held when it
was made, and each provider's counters move by its own calls only. A provider without a client
gets no counters; the total of one with a client grows by its calls counted, its failed calls
by those counted as failures, and its latency becomes that of its last success; while fewer
than `2 ^ 64` calls are counted, failed calls stay within the total. Registering a client
starts its counters afresh and leaves every other provider's. -/
theorem counters_count_calls :
    (∀ (rs : List Served) (g : Gateway), ∃ log : List CallRecord,
      Registry.Trace g.registry log ((Gateway.serveAll rs).exec g).2.registry ∧
      ∀ p, (g.registry.statsOf p = none →
          ((Gateway.serveAll rs).exec g).2.registry.statsOf p = none) ∧
        ∀ s, g.registry.statsOf p = some s → ∃ s',
          ((Gateway.serveAll rs).exec g).2.registry.statsOf p = some s' ∧
          s'.total = s.total + ((log.filter (·.provider = p)).countP (·.tally.isSome)).toUInt64 ∧
          s'.failed = s.failed +
            ((log.filter (·.provider = p)).countP (·.tally = some .failure)).toUInt64 ∧
          s'.lastLatencyMs = ((((log.filter (·.provider = p)).filterMap (·.latency?)).getLast?).map
            Nat.toUInt64).getD s.lastLatencyMs ∧
          (s.failed ≤ s.total →
            s.total.toNat + (log.filter (·.provider = p)).countP (·.tally.isSome) < 2 ^ 64 →
            s'.failed ≤ s'.total)) ∧
    ∀ (reg : Registry) (c : Backend) (q : Provider),
      (reg.register c).statsOf q = if q = c.provider then some {} else reg.statsOf q := by
  refine ⟨fun rs g => ?_, Registry.statsOf_register⟩
  obtain ⟨log, htrace⟩ := Gateway.tallied_serveAll rs g
  refine ⟨log, htrace, fun p => ⟨fun hnone => ?_, fun s hs => ?_⟩⟩
  · rw [Registry.statsOf_of_trace htrace, hnone]
    rfl
  · -- the counters are those at the start with the provider's calls counted in turn
    refine ⟨s.countAll (log.filter (·.provider = p)), ?_, CallStats.total_countAll _ _,
      CallStats.failed_countAll _ _, CallStats.lastLatencyMs_countAll _ _,
      fun hle hlt => CallStats.failed_le_total_countAll hle _ hlt⟩
    rw [Registry.statsOf_of_trace htrace, hs]
    rfl

/-- One query to a client just registered: its counters start at zero, and after the query
they count the query's calls of it. -/
theorem counters_count_calls_after_registration :
    let c : Backend := .scripted { provider := .openai, standing := .text "pong" }
    let g : Gateway :=
      { registry := Registry.register {} c, router := { rng := Random.Rng.ofSeed 0 },
        store := .counting {} }
    let rs : List Served := [.query {} { query := "ping" }]
    g.registry.statsOf .openai = some {} ∧
      ∃ log : List CallRecord, ∃ s' : CallStats,
        ((Gateway.serveAll rs).exec g).2.registry.statsOf .openai = some s' ∧
        s'.total = ((log.filter (·.provider = .openai)).countP (·.tally.isSome)).toUInt64 ∧
        s'.failed =
          ((log.filter (·.provider = .openai)).countP (·.tally = some .failure)).toUInt64 ∧
        ((log.filter (·.provider = .openai)).countP (·.tally.isSome) < 2 ^ 64 →
          s'.failed ≤ s'.total) := by
  intro c g rs
  have hs : g.registry.statsOf .openai = some {} := rfl
  obtain ⟨log, -, h⟩ := counters_count_calls.1 rs g
  obtain ⟨s', hs', htotal, hfailed, -, hle⟩ := (h .openai).2 {} hs
  refine ⟨hs, log, s', hs', ?_, ?_, fun hlt => hle (UInt64.le_refl _) ?_⟩
  · rw [htotal]
    exact UInt64.zero_add _
  · rw [hfailed]
    exact UInt64.zero_add _
  · simpa using hlt

end QueryRelay
