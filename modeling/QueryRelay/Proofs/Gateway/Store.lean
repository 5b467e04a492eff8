import QueryRelay.Proofs.Gateway.Miss

/-!
# How a query uses the store

A query looks its request up in the store once, at its start, and writes at most once: the
response a provider served, after serving it. This file shows that for every store, every
context and every state of the gateway, and that beyond this the store does not matter.

* `StoresServed` is the property of a serving step that it writes only the response it answers
  with, and that otherwise the store is invisible to it: run with another store (one whose
  writes do not crash), it ends the same way in the same state, but for the store, which is the
  other store after the same write. `serveMiss` has it (`storesServed_serveMiss`), because the
  routing and the calls are store-blind and `finish` ignores how its write went.
* `StoreUse` lists how a query ends with respect to the store: its context was done and nothing
  was touched; the store held the response and the lookup is all that happened; or the store
  held none, or failed, and the query was served with one write at most.

A store's write may crash (the in-memory cache cannot form an expiry instant past the range of
its clock). What is shown here asks only that the store's writes do not crash at the one instant
a query writes, the instant it ends (`ResponseStore.WritesSafely`); the in-memory cache meets it
at every instant whose sum with its time-to-live stays in range.
-/

namespace QueryRelay

namespace ResponseStore

/-- A store whose writes of the responses to `req` at instant `t` do not crash. -/
def WritesSafely (s : ResponseStore) (req : Request) (t : Nat) : Prop :=
  ∀ r, ∃ x, (s.set req r t).1 = .ok x

/-- The store serving `req` leaves, from the store `s` it began with, for how the serving ended
at `t`: the response a provider served is put in, and anything else leaves `s`. -/
def afterServing (s : ResponseStore) (req : Request) (t : Nat) :
    Except Stop (Except Failure Response) → ResponseStore
  | .ok (.ok r) => (s.set req r t).2
  | _ => s

end ResponseStore

/-- Serving `req` by `m` uses the store only to put in, once, the response it answers with:
run from a state whose store was replaced by one that writes safely at the instant the serving
ends, it ends the same way, in the same state but for the store, which is the replaced store
after that write. -/
def StoresServed (m : GatewayM (Except Failure Response)) (req : Request) : Prop :=
  ∀ g s, g.store.WritesSafely req (m.exec g).2.clock → s.WritesSafely req (m.exec g).2.clock →
    m.exec { g with store := s } =
      ((m.exec g).1, { (m.exec g).2 with store := s.afterServing req (m.exec g).2.clock (m.exec g).1 })

namespace StoresServed

open GatewayM

variable {req : Request}

/-- The store a serving leaves is the one it began with, after the write of its answer. -/
theorem store_eq {m : GatewayM (Except Failure Response)} (hm : StoresServed m req) (g : Gateway)
    (hg : g.store.WritesSafely req (m.exec g).2.clock) :
    (m.exec g).2.store = g.store.afterServing req (m.exec g).2.clock (m.exec g).1 := by
  have h := hm g g.store hg hg
  have hg' : ({ g with store := g.store } : Gateway) = g := rfl
  rw [hg'] at h
  exact (congrArg (fun x => x.2.store) h).trans rfl

/-- Two runs from states that differ only in the store end the same way, in the same state but
for the store. -/
theorem two_run {m : GatewayM (Except Failure Response)} (hm : StoresServed m req) (g : Gateway)
    (s : ResponseStore) (hg : g.store.WritesSafely req (m.exec g).2.clock)
    (hs : s.WritesSafely req (m.exec g).2.clock) :
    (m.exec { g with store := s }).1 = (m.exec g).1 ∧
      (m.exec { g with store := s }).2 = { (m.exec g).2 with store := (m.exec { g with store := s }).2.store } := by
  rw [hm g s hg hs]
  exact ⟨rfl, rfl⟩

/-- Answering with a failure writes nothing. -/
theorem pure_error (e : Failure) : StoresServed (pure (.error e)) req := fun _ _ _ _ => rfl

/-- A store-blind step followed by serving, for each of its results, serves. -/
theorem bind_blind {α : Type} {x : GatewayM α} {f : α → GatewayM (Except Failure Response)}
    (hx : StoreBlind x) (hf : ∀ a, StoresServed (f a) req) : StoresServed (x >>= f) req := by
  intro g s hg hs
  rw [exec_bind] at hg hs
  rw [exec_bind, exec_bind, hx g s]
  rcases hrun : x.exec g with ⟨_ | a, g₁⟩
  · rfl
  · have hstore : g₁.store = g.store := by
      rw [← hx.store_eq g, hrun]
    -- the serving ends where `f a` ends, from the state `x` left
    rw [hrun] at hg hs
    exact hf a g₁ s (by rw [hstore]; exact hg) hs

end StoresServed

namespace Gateway

open GatewayM

/-- Answering with a completion leaves the clock where it was. -/
theorem exec_finish_clock (req : Request) (p : Provider) (comp : Completion) (started : Nat)
    (original : Option Provider) (g : Gateway) :
    ((finish req p comp started original).exec g).2.clock = g.clock := by
  rw [exec_finish]
  rcases respond req p comp (g.clock - started) original with crash | r
  · rfl
  · dsimp only
    rw [exec_storeSet]
    rcases (g.store.set req r g.clock).1 with c | x <;> rfl

/-- Answering with a completion writes the response built from it, and ignores how the write
went. -/
theorem storesServed_finish (req : Request) (p : Provider) (comp : Completion) (started : Nat)
    (original : Option Provider) :
    StoresServed (finish req p comp started original >>= fun r => pure (Except.ok r)) req := by
  intro g s hg hs
  -- the write is made at the instant the serving ends, which is where it began
  have hend : ((finish req p comp started original >>= fun r => pure (Except.ok r) :
      GatewayM (Except Failure Response)).exec g).2.clock = g.clock := by
    have hclock := exec_finish_clock req p comp started original g
    rw [exec_bind]
    rcases hf : (finish req p comp started original).exec g with ⟨_ | r, g'⟩ <;>
      rw [hf] at hclock <;> exact hclock
  rw [hend] at hg hs
  rw [exec_bind, exec_bind, exec_finish, exec_finish]
  rcases hresp : respond req p comp (g.clock - started) original with crash | r
  · rfl
  · dsimp only
    rw [exec_storeSet, exec_storeSet]
    obtain ⟨x, hx⟩ := hg r
    obtain ⟨y, hy⟩ := hs r
    simp only [hx, hy]
    rfl

theorem storesServed_recover (ctx : Context) (req : Request) (started : Nat) (original : Provider)
    (err : Failure) : StoresServed (recover ctx req started original err) req := by
  unfold recover
  split
  · exact StoresServed.pure_error err
  · split
    · rw [pure_bind]
      refine StoresServed.bind_blind (storeBlind_fallback ctx original req err) fun r => ?_
      rcases r with e | d
      · dsimp only
        split
        · exact StoresServed.pure_error e
        · exact StoresServed.pure_error _
      · dsimp only
        rw [pure_bind]
        refine StoresServed.bind_blind (storeBlind_invoke ctx d.provider req) fun r => ?_
        rcases r with e | comp
        · dsimp only
          split
          · exact StoresServed.pure_error e
          · split
            · exact StoresServed.pure_error _
            · exact StoresServed.pure_error e
        · exact storesServed_finish req d.provider comp started (some original)
    · exact StoresServed.pure_error err

theorem storesServed_serveMiss (ctx : Context) (req : Request) (started : Nat) :
    StoresServed (serveMiss ctx req started) req := by
  unfold serveMiss
  refine StoresServed.bind_blind (storeBlind_checkNow ctx) fun r => ?_
  rcases r with e | ⟨⟩
  · exact StoresServed.pure_error e
  · refine StoresServed.bind_blind (storeBlind_route ctx req) fun r => ?_
    rcases r with e | d
    · exact StoresServed.pure_error e
    · dsimp only
      rw [pure_bind]
      refine StoresServed.bind_blind (storeBlind_invoke ctx d.provider req) fun r => ?_
      rcases r with err | comp
      · exact storesServed_recover ctx req started d.provider err
      · exact storesServed_finish req d.provider comp started none

/-! ## The three ways a query begins -/

theorem exec_handleQuery_of_done {ctx : Context} {req : Request} {g : Gateway} {e : Failure}
    (hck : ctx.check g.clock = .error e) : (handleQuery ctx req).exec g = (.ok (.error e), g) := by
  unfold handleQuery
  rw [exec_bind, exec_now]
  dsimp only
  rw [exec_bind, exec_checkNow, hck]
  rfl

theorem exec_handleQuery_of_hit {ctx : Context} {req : Request} {g : Gateway} {hit : Response}
    (hck : ctx.check g.clock = .ok ()) (hhit : (g.store.get req g.clock).1 = .ok (some hit)) :
    (handleQuery ctx req).exec g =
      (.ok (.ok { hit with cached := true, latencyMs := 0, requestId := req.requestId }),
        { g with store := (g.store.get req g.clock).2 }) := by
  unfold handleQuery
  rw [exec_bind, exec_now]
  dsimp only
  rw [exec_bind, exec_checkNow, hck]
  dsimp only
  rw [exec_bind, exec_storeGet, hhit]
  dsimp only
  rw [exec_bind, exec_now]
  dsimp only
  rw [Nat.sub_self, exec_pure]

theorem exec_handleQuery_of_miss {ctx : Context} {req : Request} {g : Gateway}
    (hck : ctx.check g.clock = .ok ()) (hmiss : ∀ r, (g.store.get req g.clock).1 ≠ .ok (some r)) :
    (handleQuery ctx req).exec g =
      (serveMiss ctx req g.clock).exec { g with store := (g.store.get req g.clock).2 } := by
  unfold handleQuery
  rw [exec_bind, exec_now]
  dsimp only
  rw [exec_bind, exec_checkNow, hck]
  dsimp only
  rw [exec_bind, exec_storeGet]
  dsimp only
  split
  · rename_i hit hhit
    exact absurd hhit (hmiss hit)
  · rfl

/-! ## How a query uses the store -/

section Ends

variable {ctx : Context} {req : Request}

theorem Finished.requestId {original : Option Provider} {c : Call ctx req}
    {res : Except Stop (Except Failure Response)} (h : Finished req original c res) {r : Response}
    (hr : res = .ok (.ok r)) : r.requestId = req.requestId := by
  subst hr
  rcases h with ⟨s, -, hs⟩ | ⟨-, ⟨resp, hresp, hserved⟩ | ⟨crash, hcrash⟩⟩
  · cases hs
  · cases hresp
    exact hserved.requestId
  · cases hcrash

theorem FirstFailed.ne_ok {c : Call ctx req} {err : Failure} {g' : Gateway}
    {res : Except Stop (Except Failure Response)} (h : FirstFailed c err g' res) (r : Response) :
    res ≠ .ok (.ok r) := by
  rintro rfl
  rcases h with ⟨-, h⟩ | ⟨-, ⟨e, -, h⟩ | ⟨⟨f, -, h⟩, -⟩⟩ <;> cases h

theorem SecondFailed.ne_ok {c₁ c₂ : Call ctx req} {e : Failure}
    {res : Except Stop (Except Failure Response)} (h : SecondFailed c₁ c₂ e res) (r : Response) :
    res ≠ .ok (.ok r) := by
  rintro rfl
  rcases h with ⟨-, h⟩ | ⟨f, -, h⟩ <;> cases h

/-- Every response a query answers with after its calls carries the request's id. -/
theorem Answers.requestId {cs : List (Call ctx req)}
    {run : Except Stop (Except Failure Response) × Gateway} (h : Answers req cs run) {r : Response}
    (hr : run.1 = .ok (.ok r)) : r.requestId = req.requestId := by
  obtain ⟨res, g'⟩ := run
  dsimp only at hr
  -- one case per number of calls, as `Answers` is defined
  rcases cs with _ | ⟨c₁, _ | ⟨c₂, _ | ⟨c₃, cs⟩⟩⟩
  · obtain ⟨e, he, -⟩ := h
    rw [he] at hr
    cases hr
  · rcases h with hfin | ⟨err, -, hfail⟩
    · exact hfin.requestId hr
    · exact absurd hr (hfail.ne_ok r)
  · obtain ⟨-, -, hfin | ⟨e, -, hfail⟩⟩ := h
    · exact hfin.requestId hr
    · exact absurd hr (hfail.ne_ok r)
  · exact h.elim

end Ends

/-- How a query started in `g` used the store, for how it ended. -/
inductive StoreUse (ctx : Context) (req : Request) (g : Gateway) :
    Except Stop (Except Failure Response) × Gateway → Prop where
  /-- The context was done at the start: the query failed with its failure and touched
  nothing. -/
  | done {e : Failure} (hck : ctx.check g.clock = .error e) : StoreUse ctx req g (.ok (.error e), g)
  /-- The store held a response: it is the answer, marked cached, with no time spent and the
  request's id, and the lookup is all the query did. -/
  | hit {r : Response} (hck : ctx.check g.clock = .ok ())
      (hhit : (g.store.get req g.clock).1 = .ok (some r)) :
      StoreUse ctx req g
        (.ok (.ok { r with cached := true, latencyMs := 0, requestId := req.requestId }),
          { g with store := (g.store.get req g.clock).2 })
  /-- The store held none, or failed: after the lookup the only write is of the response a
  provider served, and every response answered carries the request's id. -/
  | served {res : Except Stop (Except Failure Response)} {g' : Gateway}
      (hck : ctx.check g.clock = .ok ()) (hmiss : ∀ r, (g.store.get req g.clock).1 ≠ .ok (some r))
      (hstore : g'.store = (g.store.get req g.clock).2.afterServing req g'.clock res)
      (hid : ∀ r, res = .ok (.ok r) → r.requestId = req.requestId) : StoreUse ctx req g (res, g')

/-- **How a query uses the store.** For a store whose writes, after the lookup, do not crash at
the instant the query ends: a query whose context is done touches nothing; otherwise the store is looked up once, at the start;
a stored response is answered as stored, marked cached and with the request's id, and nothing
else happens; and when the store holds none or fails, the only write is of the response a
provider served, every response carries the request's id, and a store that fails is as good as
one that misses and a write that fails as good as one that succeeds: run with any other such
store, the query ends the same way in the same state, but for the store. -/
theorem handleQuery_storeUse (ctx : Context) (req : Request) (g : Gateway)
    (hsafe : (g.store.get req g.clock).2.WritesSafely req ((handleQuery ctx req).exec g).2.clock) :
    StoreUse ctx req g ((handleQuery ctx req).exec g) ∧
    ∀ s : ResponseStore,
      (s.get req g.clock).2.WritesSafely req ((handleQuery ctx req).exec g).2.clock →
      (∀ r, (s.get req g.clock).1 ≠ .ok (some r)) →
      (∀ r, (g.store.get req g.clock).1 ≠ .ok (some r)) →
      ((handleQuery ctx req).exec { g with store := s }).1 = ((handleQuery ctx req).exec g).1 ∧
      ((handleQuery ctx req).exec { g with store := s }).2 =
        { ((handleQuery ctx req).exec g).2 with
          store := ((handleQuery ctx req).exec { g with store := s }).2.store } := by
  refine ⟨?_, fun s hs hmiss' hmiss => ?_⟩
  · rcases hck : ctx.check g.clock with e | ⟨⟩
    · rw [exec_handleQuery_of_done hck]
      exact .done hck
    · by_cases hhit : ∃ r, (g.store.get req g.clock).1 = .ok (some r)
      · obtain ⟨r, hr⟩ := hhit
        rw [exec_handleQuery_of_hit hck hr]
        exact .hit hck hr
      · have hmiss : ∀ r, (g.store.get req g.clock).1 ≠ .ok (some r) :=
          fun r hr => hhit ⟨r, hr⟩
        rw [exec_handleQuery_of_miss hck hmiss] at hsafe ⊢
        -- the query is served from the state after the lookup
        rcases hrun : (serveMiss ctx req g.clock).exec { g with store := (g.store.get req g.clock).2 }
          with ⟨res, g'⟩
        have hstore := (storesServed_serveMiss ctx req g.clock).store_eq
          { g with store := (g.store.get req g.clock).2 } hsafe
        obtain ⟨cs, -, -, hans⟩ := serveMiss_answers ctx req g.clock
          { g with store := (g.store.get req g.clock).2 }
        rw [hrun] at hstore hans
        exact .served hck hmiss hstore fun r hr => hans.requestId hr
  · rcases hck : ctx.check g.clock with e | ⟨⟩
    · rw [exec_handleQuery_of_done hck, @exec_handleQuery_of_done ctx req { g with store := s } e hck]
      exact ⟨rfl, rfl⟩
    · rw [exec_handleQuery_of_miss hck hmiss] at hsafe hs
      rw [exec_handleQuery_of_miss hck hmiss,
        @exec_handleQuery_of_miss ctx req { g with store := s } hck hmiss']
      -- both runs serve the query from the same state but for the store
      exact (storesServed_serveMiss ctx req g.clock).two_run
        { g with store := (g.store.get req g.clock).2 } (s.get req g.clock).2 hsafe hs

/-- A query to a gateway with the in-memory cache of the default settings and one scripted
client, which the query asks for: the cache misses, the client answers at once, and the answer
is written back at the instant the query ends, which the cache's time-to-live does not carry
out of range. -/
theorem handleQuery_storeUse_on_memory_cache :
    let ctx : Context := {}
    let req : Request := { query := "ping", provider := some .openai }
    let g : Gateway :=
      { registry := Registry.register {} (.scripted { provider := .openai, standing := .text "pong" }),
        router := { rng := Random.Rng.ofSeed 0 }, store := .memory { ttlMs := 60000, maxItems := 100 } }
    (g.store.get req g.clock).2.WritesSafely req ((handleQuery ctx req).exec g).2.clock ∧
    StoreUse ctx req g ((handleQuery ctx req).exec g) ∧
    ∀ s : ResponseStore,
      (s.get req g.clock).2.WritesSafely req ((handleQuery ctx req).exec g).2.clock →
      (∀ r, (s.get req g.clock).1 ≠ .ok (some r)) →
      (∀ r, (g.store.get req g.clock).1 ≠ .ok (some r)) →
      ((handleQuery ctx req).exec { g with store := s }).1 = ((handleQuery ctx req).exec g).1 ∧
      ((handleQuery ctx req).exec { g with store := s }).2 =
        { ((handleQuery ctx req).exec g).2 with
          store := ((handleQuery ctx req).exec { g with store := s }).2.store } := by
  intro ctx req g
  have hend : ((handleQuery ctx req).exec g).2.clock = 0 := by decide
  have hsafe : (g.store.get req g.clock).2.WritesSafely req ((handleQuery ctx req).exec g).2.clock := by
    rw [hend]
    intro r
    refine ⟨.ok (), ?_⟩
    simp only [g, req]
    rfl
  exact ⟨hsafe, handleQuery_storeUse ctx req g hsafe⟩

end Gateway

end QueryRelay
