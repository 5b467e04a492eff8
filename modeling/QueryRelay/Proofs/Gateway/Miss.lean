import QueryRelay.Proofs.Gateway.Calls

/-!
# Serving a query the store missed

A query the store does not answer is routed, its provider is called, and a retryable fault
of that call gets one more call to another provider. This file shows, for every state of the
gateway (availability map, affinity table, random stream, clients with any script) and every
context, what such a query can do.

## Calls as a record

A call the query makes is a `Call`: the `invoke` run itself, from the state the gateway was in
when it called, together with what made the call legitimate. The provider was up in the map
the routing step that chose it had read (choosing leaves the map as it was read, so it is the
map of the state the call starts from), the context was still running, and the call started
at most one call of its provider's client and none of any other.

The calls of a query are a list `cs` chained through the states (`CallsFrom`): between two
calls, and before the first and after the last, no client starts a call. So the calls in the
list are all the calls the query started.

## The ends

`Answers` says how a query that made the calls `cs` may end, one case per length of `cs`:

* no call: the context ended or no provider was up, and the query fails with that;
* one call: it completed, and the query answers with a response served by it (no retry, no
  earlier provider); or it stopped, and so does the query; or it failed, and the query fails
  with that failure when it is the context's or not worth retrying, and otherwise with every
  provider failing on its fault alone (no replacement could be routed) or with the context's
  failure;
* two calls: the first failed with a retryable classified fault, the second went to another
  provider, and the query ends as the second call did: served with one retry and the first
  provider named, stopped, failed with the context's failure, or failed with both providers
  tried and the second call's fault.

A query never makes three calls. Building or storing a response may crash; then the query
stops.
-/

namespace QueryRelay

namespace Gateway

open GatewayM

/-- A provider call made while serving `req` under `ctx`: from state `before` the gateway
called `provider`, which was up in the map of that state while the context was still running;
the call ended as `outcome` and left `after`, having started at most one call of that
provider's client and none of any other. -/
structure Call (ctx : Context) (req : Request) where
  provider : Provider
  before : Gateway
  outcome : Except Stop (Except Failure Completion)
  after : Gateway
  run : (invoke ctx provider req).exec before = (outcome, after)
  live : ctx.check before.clock = .ok ()
  up : provider ∈ before.router.available
  once : ∀ q, after.registry.callsOf q ≤
    before.registry.callsOf q + if q = provider then 1 else 0

namespace Call

variable {ctx : Context} {req : Request}

/-- The call of a run of `invoke` begun while the context runs, to a provider up in the map. -/
def ofRun {p : Provider} {g g' : Gateway} {o : Except Stop (Except Failure Completion)}
    (h : (invoke ctx p req).exec g = (o, g')) (live : ctx.check g.clock = .ok ())
    (up : p ∈ g.router.available) : Call ctx req where
  provider := p
  before := g
  outcome := o
  after := g'
  run := h
  live := live
  up := up
  once q := by
    have hle := invoke_callsOf_le ctx p req g q
    rwa [h] at hle

end Call

/-- From `g` to `g'` no call was started but the calls `cs`, made in this order. -/
inductive CallsFrom {ctx : Context} {req : Request} :
    Gateway → List (Call ctx req) → Gateway → Prop where
  | nil {g g' : Gateway} (quiet : NoCallBetween g g') : CallsFrom g [] g'
  | cons {g g' : Gateway} {c : Call ctx req} {cs : List (Call ctx req)}
      (quiet : NoCallBetween g c.before) (rest : CallsFrom c.after cs g') :
      CallsFrom g (c :: cs) g'

/-- Steps that start no call may come first. -/
theorem CallsFrom.of_quiet {ctx : Context} {req : Request} {g₀ g g' : Gateway}
    {cs : List (Call ctx req)} (h₀ : NoCallBetween g₀ g) (h : CallsFrom g cs g') :
    CallsFrom g₀ cs g' := by
  cases h with
  | nil quiet => exact .nil (h₀.trans quiet)
  | cons quiet rest => exact .cons (h₀.trans quiet) rest

section Ends

variable {ctx : Context} {req : Request}

/-- How a query ends after its last call `c` completed or stopped: a stop ends the query as it
is, and a completion is answered with a response served by `c`'s provider (`original` names
the provider that failed before), unless building or storing the response crashed. -/
def Finished (req : Request) (original : Option Provider) (c : Call ctx req)
    (r : Except Stop (Except Failure Response)) : Prop :=
  (∃ s, c.outcome = .error s ∧ r = .error s) ∨
    (∃ comp, c.outcome = .ok (.ok comp)) ∧
      ((∃ resp, r = .ok (.ok resp) ∧ ServedBy req c.provider original resp) ∨
        ∃ crash, r = .error (.crash crash))

/-- How a query ends in state `g'` when its only call `c` failed with `err`: with `err` itself
when it is the context's or not worth retrying; otherwise with the context's failure, or with
every provider failing on `err`'s fault alone when no replacement could be routed, the map
holding no provider up but `c`'s. -/
def FirstFailed (c : Call ctx req) (err : Failure) (g' : Gateway)
    (r : Except Stop (Except Failure Response)) : Prop :=
  (err.isCancellation = true ∨ err.isRetryable = false) ∧ r = .ok (.error err) ∨
    err.isRetryable = true ∧
      ((∃ e, e.isCancellation = true ∧ r = .ok (.error e)) ∨
        (∃ f, err.fault? = some f ∧ r = .ok (.error (.exhausted [c.provider] f))) ∧
          ∀ q ∈ g'.router.available, q = c.provider)

/-- How a query ends when its second call `c₂` failed with `e`: with the context's failure, or
with both providers tried and the second call's fault. -/
def SecondFailed (c₁ c₂ : Call ctx req) (e : Failure)
    (r : Except Stop (Except Failure Response)) : Prop :=
  e.isCancellation = true ∧ r = .ok (.error e) ∨
    ∃ f, e.fault? = some f ∧ r = .ok (.error (.exhausted [c₁.provider, c₂.provider] f))

/-- How a query that made the calls `cs` may end, with its result and the state it leaves. -/
def Answers (req : Request) :
    List (Call ctx req) → Except Stop (Except Failure Response) × Gateway → Prop
  | [], (r, g') => ∃ e, r = .ok (.error e) ∧
    (e.isCancellation = true ∨ e = Router.noProvider ∧ g'.router.available = [])
  | [c], (r, g') =>
    Finished req none c r ∨ ∃ err, c.outcome = .ok (.error err) ∧ FirstFailed c err g' r
  | [c₁, c₂], (r, _) =>
    (∃ f, c₁.outcome = .ok (.error (.provider f)) ∧ f.retryable = true) ∧
      c₂.provider ≠ c₁.provider ∧
      (Finished req (some c₁.provider) c₂ r ∨
        ∃ e, c₂.outcome = .ok (.error e) ∧ SecondFailed c₁ c₂ e r)
  | _ :: _ :: _ :: _, _ => False

/-! ## The ends of a query -/

/-- Answering a completed call starts no call and ends the query as `Finished` says. -/
theorem finish_answers (c : Call ctx req) (comp : Completion) (hc : c.outcome = .ok (.ok comp))
    (original : Option Provider) (started : Nat) (g : Gateway) :
    NoCallBetween g ((finish req c.provider comp started original >>= fun r =>
        pure (Except.ok r) : GatewayM (Except Failure Response)).exec g).2 ∧
      Finished req original c ((finish req c.provider comp started original >>= fun r =>
        pure (Except.ok r) : GatewayM (Except Failure Response)).exec g).1 := by
  have hq := startsNoCall_finish req c.provider comp started original g
  rcases hf : (finish req c.provider comp started original).exec g with ⟨s | resp, g'⟩
  · rw [exec_bind_of_error hf]
    rw [hf] at hq
    obtain ⟨crash, rfl⟩ := finish_crash hf
    exact ⟨hq, .inr ⟨⟨comp, hc⟩, .inr ⟨crash, rfl⟩⟩⟩
  · rw [exec_bind_of_ok hf]
    rw [hf] at hq
    exact ⟨hq, .inr ⟨⟨comp, hc⟩, .inl ⟨resp, rfl, finish_servedBy hf⟩⟩⟩

/-- **Recovering from a failed first call.** At most one more call is made, and the query with
its calls ends as `Answers` says. -/
theorem recover_answers (c : Call ctx req) {err : Failure} (hc : c.outcome = .ok (.error err)) (started : Nat) :
    ∃ cs : List (Call ctx req), cs.length ≤ 1 ∧
      CallsFrom c.after cs ((recover ctx req started c.provider err).exec c.after).2 ∧
      Answers req (c :: cs) ((recover ctx req started c.provider err).exec c.after) := by
  unfold recover
  by_cases hfinal : (err.isCancellation || !err.isRetryable) = true
  · -- the context's failure, or one not worth retrying, is the query's
    rw [if_pos hfinal]
    refine ⟨[], Nat.zero_le _, .nil (.refl _), .inr ⟨err, hc, .inl ⟨?_, rfl⟩⟩⟩
    simpa using hfinal
  · rw [if_neg hfinal]
    have hretry : err.isRetryable = true := by simp_all
    -- a retryable failure is a single classified fault
    obtain ⟨f, rfl, hf⟩ := Failure.eq_provider_of_isRetryable hretry
    have hfirst : ∃ f', c.outcome = .ok (.error (.provider f')) ∧ f'.retryable = true :=
      ⟨f, hc, hf⟩
    have hfault : (Failure.provider f).fault? = some f := rfl
    rw [hfault]
    dsimp only
    rw [pure_bind]
    obtain ⟨rr, g₁, hfb, hpost⟩ := fallback_ends ctx c.provider req (.provider f) c.after
    have hq₁ := startsNoCall_fallback ctx c.provider req (.provider f) c.after
    rw [hfb] at hq₁
    rw [exec_bind_of_ok hfb]
    rcases rr with e | d
    · -- no replacement could be routed
      dsimp only
      split
      · exact ⟨[], Nat.zero_le _, .nil hq₁, .inr ⟨.provider f, hc, .inr ⟨hretry, .inl ⟨e, ‹_›, rfl⟩⟩⟩⟩
      · rename_i hlive
        have honly : ∀ q ∈ g₁.router.available, q = c.provider := by
          rcases hpost.2 e rfl hretry with hcan | honly
          · exact absurd hcan hlive
          · exact honly
        exact ⟨[], Nat.zero_le _, .nil hq₁,
          .inr ⟨.provider f, hc, .inr ⟨hretry, .inr ⟨⟨f, rfl, rfl⟩, honly⟩⟩⟩⟩
    · obtain ⟨hup, hne, hlive⟩ := hpost.1 d rfl
      dsimp only
      rw [pure_bind]
      rcases hinv : (invoke ctx d.provider req).exec g₁ with ⟨o, g₂⟩
      rw [exec_bind, hinv]
      rcases o with s | e | comp
      · exact ⟨[Call.ofRun hinv hlive hup], Nat.le_refl _, .cons hq₁ (.nil (.refl _)),
          hfirst, hne, .inl (.inl ⟨s, rfl, rfl⟩)⟩
      · -- the replacement failed too
        dsimp only
        split
        · exact ⟨[Call.ofRun hinv hlive hup], Nat.le_refl _, .cons hq₁ (.nil (.refl _)), hfirst,
            hne, .inr ⟨e, rfl, .inl ⟨‹_›, rfl⟩⟩⟩
        · rcases invoke_failure hinv with hcan | ⟨f₂, rfl⟩
          · contradiction
          · exact ⟨[Call.ofRun hinv hlive hup], Nat.le_refl _, .cons hq₁ (.nil (.refl _)), hfirst,
              hne, .inr ⟨_, rfl, .inr ⟨f₂, rfl, rfl⟩⟩⟩
      · obtain ⟨hq, hfin⟩ :=
          finish_answers (Call.ofRun hinv hlive hup) comp rfl (some c.provider) started g₂
        exact ⟨[Call.ofRun hinv hlive hup], Nat.le_refl _, .cons hq₁ (.nil hq), hfirst, hne,
          .inl hfin⟩
/-- Serving a query the store missed makes at most two calls and ends as `Answers` says. -/
theorem serveMiss_answers (ctx : Context) (req : Request) (started : Nat) (g : Gateway) :
    ∃ cs : List (Call ctx req), cs.length ≤ 2 ∧
      CallsFrom g cs ((serveMiss ctx req started).exec g).2 ∧
      Answers req cs ((serveMiss ctx req started).exec g) := by
  unfold serveMiss
  rw [exec_bind, exec_checkNow]
  dsimp only
  rcases hck : ctx.check g.clock with e | ⟨⟩
  · -- the context is done: nothing is called
    exact ⟨[], Nat.zero_le _, .nil (.refl g), e, rfl, .inl (Context.isCancellation_of_check hck)⟩
  · obtain ⟨rr, g₁, hroute, hpost⟩ := route_ends ctx req g
    have hq₁ := startsNoCall_route ctx req g
    rw [hroute] at hq₁
    dsimp only
    rw [exec_bind_of_ok hroute]
    rcases rr with e | d
    · exact ⟨[], Nat.zero_le _, .nil hq₁, e, rfl, hpost.2 e rfl⟩
    · obtain ⟨hup, hlive⟩ := hpost.1 d rfl
      dsimp only
      rw [pure_bind]
      rcases hinv : (invoke ctx d.provider req).exec g₁ with ⟨o, g₂⟩
      rw [exec_bind, hinv]
      rcases o with s | err | comp
      · exact ⟨[Call.ofRun hinv hlive hup], Nat.le_succ _, .cons hq₁ (.nil (.refl _)),
          .inl (.inl ⟨s, rfl, rfl⟩)⟩
      · -- the first call failed: at most one more
        obtain ⟨cs, hlen, hcalls, hans⟩ := recover_answers (Call.ofRun hinv hlive hup) rfl started
        exact ⟨_ :: cs, Nat.succ_le_succ hlen, .cons hq₁ hcalls, hans⟩
      · obtain ⟨hq, hfin⟩ := finish_answers (Call.ofRun hinv hlive hup) comp rfl none started g₂
        exact ⟨[Call.ofRun hinv hlive hup], Nat.le_succ _, .cons hq₁ (.nil hq), .inl hfin⟩

/-- **The calls and the end of a query the store misses.** Whatever the state of the gateway
and the context, a query that the store does not answer with a response starts no call but at
most two provider calls, each made while the context runs to a provider up in the map of the
routing step that chose it; a second call follows only a retryable classified fault of the
first and goes to another provider; and the query ends as `Answers` says of its calls. -/
theorem handleQuery_calls_of_miss (ctx : Context) (req : Request) (g : Gateway)
    (hmiss : ∀ hit, (g.store.get req g.clock).1 ≠ .ok (some hit)) :
    ∃ cs : List (Call ctx req), cs.length ≤ 2 ∧
      CallsFrom g cs ((handleQuery ctx req).exec g).2 ∧
      Answers req cs ((handleQuery ctx req).exec g) := by
  unfold handleQuery
  rw [exec_bind, exec_now]
  dsimp only
  rw [exec_bind, exec_checkNow]
  dsimp only
  rcases hck : ctx.check g.clock with e | ⟨⟩
  · exact ⟨[], Nat.zero_le _, .nil (.refl g), e, rfl, .inl (Context.isCancellation_of_check hck)⟩
  · dsimp only
    rw [exec_bind, exec_storeGet]
    dsimp only
    split
    · rename_i hit hhit
      exact absurd hhit (hmiss hit)
    · obtain ⟨cs, hlen, hcalls, hans⟩ := serveMiss_answers ctx req g.clock
        { g with store := (g.store.get req g.clock).2 }
      -- looking the request up changes only the store
      have hq : NoCallBetween g { g with store := (g.store.get req g.clock).2 } := fun _ => rfl
      exact ⟨cs, hlen, CallsFrom.of_quiet hq hcalls, hans⟩

/-- A query asking for the one registered provider, which is marked up, to a gateway whose
counting store is empty is served as a miss. -/
theorem handleQuery_calls_of_miss_on_up_provider :
    let ctx : Context := {}
    let req : Request := { query := "ping", provider := some .openai }
    let g : Gateway :=
      { registry := Registry.register {} (.scripted { provider := .openai, standing := .text "pong" }),
        router := Router.setAvailability { rng := Random.Rng.ofSeed 0 } .openai true,
        store := .counting {} }
    (∀ hit, (g.store.get req g.clock).1 ≠ .ok (some hit)) ∧
      ∃ cs : List (Call ctx req), cs.length ≤ 2 ∧
        CallsFrom g cs ((handleQuery ctx req).exec g).2 ∧
        Answers req cs ((handleQuery ctx req).exec g) := by
  intro ctx req g
  have hmiss : ∀ hit, (g.store.get req g.clock).1 ≠ .ok (some hit) := by
    intro hit h
    cases h
  exact ⟨hmiss, handleQuery_calls_of_miss ctx req g hmiss⟩

end Ends

end Gateway

end QueryRelay
