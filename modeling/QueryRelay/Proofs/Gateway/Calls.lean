import QueryRelay.Proofs.Gateway.Routing
import QueryRelay.Proofs.Backend.Prompts

/-!
# Provider calls and what they leave behind

A provider call is the one thing a query does that a provider sees. A scripted client counts
the calls it starts (`ScriptedBackend.calls`), and that count is how a call is observed here:
`Registry.callsOf` reads it for one provider, and an operation *starts no call*
(`StartsNoCall`) when it leaves every provider's count as it found it.

## What changes a count

Only `Gateway.invoke` changes a count, and by at most one, for the provider it calls
(`invoke_callsOf_le`). Everything else the dispatcher does around its calls starts none:
checking the context, routing (whose refresh probes every client, and a probe is counted
apart from the calls), looking up and storing responses, and building the response
(`startsNoCall_route`, `startsNoCall_fallback`, `startsNoCall_finish`).

Starting no call is one case of a scheme used again for the call counters: an operation
*moves the registry by `R`* (`MovesRegistry`) when every run of it leaves a registry
`R`-related to the one it found. For any `R` that may stay put, composes and contains a probe of
every client (`RegistryMoves`), this is closed under `bind`, and routing and choosing a
replacement move the registry by `R` (`movesRegistry_route`, `movesRegistry_fallback`). Keeping
every count is such an `R` (`NoCallBetween.moves`).

The registry is an association list, and every change the gateway makes to it maps its entries
keeping their providers. So a lookup after the change is the lookup before it, changed the same
way (`Registry.find?_of_entries`), and each count lemma is a short consequence.

## How a call ends

A call that returns fails only with a classified fault or with the context's own failure
(`invoke_failure`): a provider with no client, a hosted client without its key and a scripted
fault are all classified, and a call cut short by the context fails as the context did.

A response built from a completion (`Gateway.finish`) names the provider that served it and the
request's id, and after a fallback one retry and the provider that failed first
(`finish_servedBy`). Building it stops only on a crash: the checked sum of the token counts
overflowed, or the store crashed.
-/

namespace QueryRelay

/-! ## Counting calls -/

namespace Backend

/-- A probe is counted as a probe, never as a call. -/
@[simp] theorem calls?_probe (c : Backend) (timeoutMs s : Nat) :
    (c.probe timeoutMs s).2.calls? = c.calls? := by
  cases c <;> rfl

/-- A call adds at most one to its client's count. -/
theorem calls?_call_le (c : Backend) (w : Waiter) (ctx : Context) (s : Nat) (req : Request) :
    ((c.call w ctx s req).2.calls?).getD 0 ≤ c.calls?.getD 0 + 1 := by
  unfold call
  split
  · exact Nat.le_succ _
  · split
    · -- a hosted client counts nothing
      exact Nat.zero_le _
    · rename_i b
      rcases ht : b.take with ⟨r, b'⟩
      have hcalls : b'.calls = b.calls + 1 := by
        rw [← ScriptedBackend.take_calls, ht]
      simp only [calls?, Option.getD_some]
      omega

/-- A call under a request's flow fails only with a classified fault or with the context's own
failure. -/
theorem call_failure {c : Backend} {ctx : Context} {s : Nat} {req : Request} {t : Nat}
    {e : Failure} {c' : Backend} (h : c.call .flow ctx s req = (.answered t (.error e), c')) :
    e.isCancellation = true ∨ ∃ f, e = .provider f := by
  unfold call at h
  split at h
  · rename_i f hf
    cases h
    exact .inl (Context.isCancellation_of_check hf)
  · split at h
    · rename_i hc hd env
      dsimp only at h
      split at h
      · rename_i t' f hw
        cases h
        exact .inl (Context.isCancellation_of_waitFrom hw)
      · cases h
      · -- the run of the prompts failed
        rename_i t' hw
        cases hr : (hd.promptRun env ctx s).result with
        | ok a =>
          rw [HostedClient.query_fst, hr] at h
          cases h
        | error f =>
          rw [HostedClient.query_fst, hr] at h
          cases h
          rcases hd.promptRun_failure env ctx s hr with hcan | ⟨kind, msg, rfl⟩
          · exact .inl hcan
          · exact .inr ⟨_, rfl⟩
    · dsimp only at h
      split at h
      · rename_i t' f hw
        cases h
        exact .inl (Context.isCancellation_of_waitFrom hw)
      · cases h
      · split at h
        · cases h
        · cases h
          exact .inr ⟨_, rfl⟩
        · cases h
        · cases h

end Backend

namespace Registry

/-- The calls a provider's client has started, as far as it counts them: a scripted client
counts every call it starts; a hosted client, and a provider without a client, show none. -/
def callsOf (reg : Registry) (p : Provider) : Nat :=
  ((reg.client? p).bind Backend.calls?).getD 0

/-- A change of every entry by `F`, keyed on the entry's provider, is seen by a lookup as the
same change of the registration found. -/
theorem find?_of_entries {reg reg' : Registry} {F : Provider → Registration → Registration}
    (h : reg'.entries = reg.entries.map (fun e => (e.1, F e.1 e.2))) (q : Provider) :
    reg'.find? q = (reg.find? q).map (F q) := by
  unfold find?
  rw [h, List.find?_map]
  have hp : (fun e : Provider × Registration => e.1 == q) ∘
      (fun e : Provider × Registration => (e.1, F e.1 e.2)) = (fun e => e.1 == q) := rfl
  rw [hp]
  rcases hf : reg.entries.find? (fun e => e.1 == q) with _ | ⟨k, r⟩
  · rw [hf]
    rfl
  · have hk : k = q := by simpa using List.find?_some hf
    subst hk
    rw [hf]
    rfl

theorem find?_modify (reg : Registry) (p : Provider) (f : Registration → Registration)
    (q : Provider) :
    (reg.modify p f).find? q = (reg.find? q).map (fun r => if q = p then f r else r) := by
  refine @find?_of_entries reg _ (fun k r => if k = p then f r else r) ?_ q
  refine List.map_congr_left fun e _ => ?_
  split <;> rfl

/-- A change of registrations that keeps every client's count keeps every provider's. -/
theorem callsOf_modify (reg : Registry) (p : Provider) {f : Registration → Registration}
    (hf : ∀ r, (f r).client.calls? = r.client.calls?) (q : Provider) :
    (reg.modify p f).callsOf q = reg.callsOf q := by
  unfold callsOf client?
  rw [find?_modify]
  rcases reg.find? q with _ | r
  · rfl
  · simp only [Option.map_some, Option.bind_some]
    split
    · rw [hf]
    · rfl

@[simp] theorem callsOf_recordSuccess (reg : Registry) (p : Provider) (l : Nat) (q : Provider) :
    (reg.recordSuccess p l).callsOf q = reg.callsOf q := by
  unfold recordSuccess
  refine callsOf_modify reg p (fun r => ?_) q
  rfl

@[simp] theorem callsOf_recordFailure (reg : Registry) (p q : Provider) :
    (reg.recordFailure p).callsOf q = reg.callsOf q := by
  unfold recordFailure
  refine callsOf_modify reg p (fun r => ?_) q
  rfl

/-- Replacing a provider's client changes no other provider's count. -/
theorem callsOf_setClient_of_ne (reg : Registry) {p q : Provider} (c : Backend) (h : q ≠ p) :
    (reg.setClient p c).callsOf q = reg.callsOf q := by
  unfold callsOf client? setClient
  rw [find?_modify]
  simp only [h, if_false, Option.map_id']

/-- Replacing the client of a registered provider makes its count the new client's. -/
theorem callsOf_setClient_self {reg : Registry} {p : Provider} {c : Backend}
    (h : reg.client? p = some c) (c' : Backend) :
    (reg.setClient p c').callsOf p = c'.calls?.getD 0 := by
  unfold client? at h
  unfold callsOf client? setClient
  rw [find?_modify]
  rcases hf : reg.find? p with _ | r
  · rw [hf] at h
    cases h
  · simp

end Registry

namespace Gateway

open GatewayM

/-- Probing every client replaces each client by the probed one and keeps the entries. -/
theorem probeAll_entries (reg : Registry) (timeoutMs s : Nat) :
    (probeAll reg timeoutMs s).2.entries =
      reg.entries.map (fun e => (e.1, { e.2 with client := (e.2.client.probe timeoutMs s).2 })) :=
  rfl

/-- Probing every client answers, for each entry in order, its provider and its probe's answer. -/
theorem probeAll_answers (reg : Registry) (timeoutMs s : Nat) :
    (probeAll reg timeoutMs s).1 =
      reg.entries.map (fun e => (e.1, (e.2.client.probe timeoutMs s).1)) :=
  rfl

@[simp] theorem callsOf_probeAll (reg : Registry) (timeoutMs s : Nat) (q : Provider) :
    (probeAll reg timeoutMs s).2.callsOf q = reg.callsOf q := by
  unfold Registry.callsOf Registry.client?
  rw [@Registry.find?_of_entries reg _ (fun _ r => { r with client := (r.client.probe timeoutMs s).2 })
    (probeAll_entries reg timeoutMs s)]
  rcases reg.find? q with _ | r
  · rfl
  · simp

end Gateway

/-! ## Operations that move the registry -/

/-- A relation between registries that every run may take: it may stay put, its steps compose,
and a probe of every client is one. -/
structure RegistryMoves (R : Registry → Registry → Prop) : Prop where
  refl : ∀ reg, R reg reg
  trans : ∀ {a b c}, R a b → R b c → R a c
  probe : ∀ reg timeoutMs s, R reg (Gateway.probeAll reg timeoutMs s).2

/-- Run from any state, the operation leaves a registry `R`-related to the one it found,
whether it ends or stops. -/
def MovesRegistry (R : Registry → Registry → Prop) {α : Type} (m : GatewayM α) : Prop :=
  ∀ g, R g.registry (m.exec g).2.registry

namespace MovesRegistry

open GatewayM

variable {R : Registry → Registry → Prop} {α β : Type}

/-- An operation that leaves the registry alone. -/
theorem of_registry (hR : RegistryMoves R) {m : GatewayM α}
    (h : ∀ g, (m.exec g).2.registry = g.registry) : MovesRegistry R m := fun g => by
  rw [h g]
  exact hR.refl _

theorem pure (hR : RegistryMoves R) (a : α) : MovesRegistry R (pure a : GatewayM α) :=
  fun g => hR.refl g.registry

theorem throw (hR : RegistryMoves R) (s : Stop) : MovesRegistry R (throw s : GatewayM α) :=
  fun g => hR.refl g.registry

theorem discard {x : GatewayM α} (hx : MovesRegistry R x) :
    MovesRegistry R (discard x) := fun g => by
  rw [exec_discard]
  rcases hr : x.exec g with ⟨_ | _, g'⟩ <;> simpa [hr] using hx g

theorem get_bind {k : Gateway → GatewayM α} (h : ∀ g, MovesRegistry R (k g)) :
    MovesRegistry R (get >>= k) := fun g => by
  rw [exec_get_bind]
  exact h g g

/-- What is done after reading the state need only move the registry from that state. -/
theorem get_bind_at {k : Gateway → GatewayM α} (h : ∀ g, R g.registry ((k g).exec g).2.registry) :
    MovesRegistry R (get >>= k) := fun g => by
  rw [exec_get_bind]
  exact h g

theorem bind_at (hR : RegistryMoves R) {x : GatewayM α} {f : α → GatewayM β} {g : Gateway}
    (hx : R g.registry (x.exec g).2.registry) (hf : ∀ a, MovesRegistry R (f a)) :
    R g.registry ((x >>= f).exec g).2.registry := by
  rcases hr : x.exec g with ⟨_ | a, g₁⟩
  · rw [exec_bind_of_error hr]
    simpa [hr] using hx
  · rw [exec_bind_of_ok hr]
    exact hR.trans (by simpa [hr] using hx) (hf a g₁)

theorem bind (hR : RegistryMoves R) {x : GatewayM α} {f : α → GatewayM β}
    (hx : MovesRegistry R x) (hf : ∀ a, MovesRegistry R (f a)) : MovesRegistry R (x >>= f) :=
  fun g => bind_at hR (hx g) hf

end MovesRegistry

namespace Gateway

open GatewayM

section Probing

/-! ### Operations that only probe -/

variable {R : Registry → Registry → Prop} (hR : RegistryMoves R)
include hR

theorem movesRegistry_checkNow (ctx : Context) : MovesRegistry R (checkNow ctx) :=
  MovesRegistry.of_registry hR fun _ => rfl

theorem movesRegistry_now : MovesRegistry R now := MovesRegistry.of_registry hR fun _ => rfl

theorem movesRegistry_advanceTo (t : Nat) : MovesRegistry R (advanceTo t) :=
  MovesRegistry.of_registry hR fun _ => rfl

theorem movesRegistry_refreshFrom (c : Option Context) : MovesRegistry R (refreshFrom c) := by
  intro g
  unfold refreshFrom
  rw [exec_get_bind]
  dsimp only
  split <;> exact hR.probe _ _ _

theorem movesRegistry_refreshWithin (ctx : Context) : MovesRegistry R (refreshWithin ctx) := by
  unfold refreshWithin
  refine MovesRegistry.bind hR (movesRegistry_checkNow hR ctx) fun r => ?_
  rcases r with e | ⟨⟩
  · exact MovesRegistry.pure hR _
  · refine MovesRegistry.get_bind fun g => ?_
    split
    · exact movesRegistry_refreshFrom hR _
    · exact MovesRegistry.pure hR _

theorem movesRegistry_availableWithin (ctx : Context) :
    MovesRegistry R (availableWithin ctx) := by
  unfold availableWithin
  refine MovesRegistry.bind hR (movesRegistry_refreshWithin hR ctx) fun r => ?_
  rcases r with e | ⟨⟩
  · exact MovesRegistry.pure hR _
  · exact MovesRegistry.get_bind fun _ => MovesRegistry.pure hR _

theorem movesRegistry_choice {α : Type} (choose : Router → α × Router) :
    MovesRegistry R (do
      let g ← get
      let (d, router) := choose g.router
      set { g with router }
      return d) :=
  MovesRegistry.of_registry hR fun g => by rw [exec_choice]

theorem movesRegistry_route (ctx : Context) (req : Request) : MovesRegistry R (route ctx req) := by
  unfold route
  refine MovesRegistry.bind hR (movesRegistry_checkNow hR ctx) fun r => ?_
  rcases r with e | ⟨⟩
  · exact MovesRegistry.pure hR _
  · refine MovesRegistry.bind hR (movesRegistry_availableWithin hR ctx) fun r => ?_
    rcases r with e | up
    · exact MovesRegistry.pure hR _
    · refine MovesRegistry.bind hR (movesRegistry_checkNow hR ctx) fun r => ?_
      rcases r with e | ⟨⟩
      · exact MovesRegistry.pure hR _
      · exact movesRegistry_choice hR (fun r => r.choose up req)

theorem movesRegistry_fallback (ctx : Context) (original : Provider) (req : Request)
    (err : Failure) : MovesRegistry R (fallback ctx original req err) := by
  unfold fallback
  split
  · exact MovesRegistry.pure hR _
  · refine MovesRegistry.bind hR (movesRegistry_checkNow hR ctx) fun r => ?_
    rcases r with e | ⟨⟩
    · exact MovesRegistry.pure hR _
    · refine MovesRegistry.bind hR (movesRegistry_availableWithin hR ctx) fun r => ?_
      rcases r with e | up
      · exact MovesRegistry.pure hR _
      · exact movesRegistry_choice hR (fun r => r.chooseFallback up original req.provider)

theorem movesRegistry_storeGet (req : Request) : MovesRegistry R (storeGet req) :=
  MovesRegistry.of_registry hR fun _ => rfl

end Probing

/-! ## Operations that start no call -/

/-- From `g` to `g'` no client started a call: every provider's count is as it was. -/
def NoCallBetween (g g' : Gateway) : Prop :=
  ∀ p, g'.registry.callsOf p = g.registry.callsOf p

namespace NoCallBetween

theorem refl (g : Gateway) : NoCallBetween g g := fun _ => rfl

theorem trans {g₁ g₂ g₃ : Gateway} (h₁ : NoCallBetween g₁ g₂) (h₂ : NoCallBetween g₂ g₃) :
    NoCallBetween g₁ g₃ := fun p => (h₂ p).trans (h₁ p)

theorem of_registry {g g' : Gateway} (h : g'.registry = g.registry) : NoCallBetween g g' :=
  fun p => by rw [h]

/-- Keeping every count is a way the registry may move: a probe is counted apart from the
calls. -/
theorem moves : RegistryMoves (fun reg reg' : Registry => ∀ p, reg'.callsOf p = reg.callsOf p) where
  refl _ _ := rfl
  trans h₁ h₂ p := (h₂ p).trans (h₁ p)
  probe reg timeoutMs s q := callsOf_probeAll reg timeoutMs s q

end NoCallBetween

/-- Run from any state, the operation starts no call, whether it ends or stops. -/
def StartsNoCall {α : Type} (m : GatewayM α) : Prop :=
  ∀ g, NoCallBetween g (m.exec g).2

namespace StartsNoCall

variable {α β : Type}

theorem pure (a : α) : StartsNoCall (pure a : GatewayM α) := MovesRegistry.pure NoCallBetween.moves a

theorem throw (s : Stop) : StartsNoCall (throw s : GatewayM α) :=
  MovesRegistry.throw NoCallBetween.moves s

/-- What follows a step that ended starts no call from the state the step left. -/
theorem after {x : GatewayM α} {f : α → GatewayM β} {g g₁ : Gateway} {a : α}
    (hx : x.exec g = (.ok a, g₁)) (hf : StartsNoCall (f a)) :
    NoCallBetween g₁ ((x >>= f).exec g).2 := by
  rw [exec_bind_of_ok hx]
  exact hf g₁

theorem bind {x : GatewayM α} {f : α → GatewayM β} (hx : StartsNoCall x)
    (hf : ∀ a, StartsNoCall (f a)) : StartsNoCall (x >>= f) :=
  MovesRegistry.bind NoCallBetween.moves hx hf

end StartsNoCall

theorem startsNoCall_advanceTo (t : Nat) : StartsNoCall (advanceTo t) :=
  movesRegistry_advanceTo NoCallBetween.moves t

/-- A change of the registry that keeps every count starts no call. -/
theorem startsNoCall_modifyRegistry (f : Registry → Registry)
    (hf : ∀ reg q, (f reg).callsOf q = reg.callsOf q) : StartsNoCall (modifyRegistry f) :=
  fun g q => hf g.registry q

/-- Routing starts no call: its refresh probes every client, and a probe is counted apart
from the calls. -/
theorem startsNoCall_route (ctx : Context) (req : Request) : StartsNoCall (route ctx req) :=
  movesRegistry_route NoCallBetween.moves ctx req

theorem startsNoCall_fallback (ctx : Context) (original : Provider) (req : Request)
    (err : Failure) : StartsNoCall (fallback ctx original req err) :=
  movesRegistry_fallback NoCallBetween.moves ctx original req err

/-! ## Calling a provider -/

/-- A call adds at most one to the count of the provider it calls, and nothing to any other. -/
theorem invoke_callsOf_le (ctx : Context) (p : Provider) (req : Request) (g : Gateway)
    (q : Provider) :
    ((invoke ctx p req).exec g).2.registry.callsOf q ≤
      g.registry.callsOf q + if q = p then 1 else 0 := by
  unfold invoke
  rw [exec_get_bind]
  split
  · exact Nat.le_add_right _ _
  · rename_i c hc
    -- once the client is replaced, the call only moves the clock and records its outcome
    refine Nat.le_trans (Nat.le_of_eq (StartsNoCall.after (exec_modifyRegistry _ g) ?rest q)) ?_
    case rest =>
      split
      · exact StartsNoCall.throw _
      · exact StartsNoCall.bind (startsNoCall_advanceTo _) fun _ => StartsNoCall.throw _
      · refine StartsNoCall.bind (startsNoCall_advanceTo _) fun _ => ?_
        refine StartsNoCall.bind (startsNoCall_modifyRegistry _ ?_) fun _ => StartsNoCall.pure _
        exact fun reg q => Registry.callsOf_recordSuccess reg p _ q
      · refine StartsNoCall.bind (startsNoCall_advanceTo _) fun _ => ?_
        split
        · exact StartsNoCall.bind (startsNoCall_modifyRegistry _ fun reg q =>
            Registry.callsOf_recordFailure reg p q) fun _ => StartsNoCall.pure _
        · exact StartsNoCall.pure _
    -- the count the replaced client shows
    show (g.registry.setClient p (c.call .flow ctx g.clock req).2).callsOf q ≤ _
    by_cases hq : q = p
    · subst hq
      have hle := Backend.calls?_call_le c .flow ctx g.clock req
      have hold : g.registry.callsOf q = c.calls?.getD 0 := by
        unfold Registry.callsOf
        rw [hc]
        rfl
      rw [Registry.callsOf_setClient_self hc, hold, if_pos rfl]
      exact hle
    · rw [Registry.callsOf_setClient_of_ne _ _ hq, if_neg hq]
      exact Nat.le_refl _

/-- A call that returns fails only with a classified fault or with the context's own failure:
a provider without a client, a hosted client without its key and a scripted fault are all
classified. -/
theorem invoke_failure {ctx : Context} {p : Provider} {req : Request} {g g' : Gateway}
    {e : Failure} (h : (invoke ctx p req).exec g = (.ok (.error e), g')) :
    e.isCancellation = true ∨ ∃ f, e = .provider f := by
  unfold invoke at h
  rw [exec_get_bind] at h
  split at h
  · cases h
    exact .inr ⟨_, rfl⟩
  · rw [exec_bind_of_ok (exec_modifyRegistry _ g)] at h
    split at h
    · cases h
    · rw [exec_bind_of_ok (exec_advanceTo _ _)] at h
      cases h
    · rw [exec_bind_of_ok (exec_advanceTo _ _)] at h
      rw [exec_bind_of_ok (exec_modifyRegistry _ _)] at h
      cases h
    · rename_i t e' hcall
      rw [exec_bind_of_ok (exec_advanceTo _ _)] at h
      have he : e' = e := by
        split at h
        · rw [exec_bind_of_ok (exec_modifyRegistry _ _)] at h
          cases h
          rfl
        · cases h
          rfl
      subst he
      exact Backend.call_failure (Prod.ext hcall rfl)

/-! ## Answering with a completion -/

/-- What a response served by a provider says of the call that served it: the provider, the
request's id, and after a fallback one retry and the provider that failed first. -/
structure ServedBy (req : Request) (p : Provider) (original : Option Provider) (r : Response) :
    Prop where
  provider : r.provider = p
  requestId : r.requestId = req.requestId
  retries : r.retries = if original.isSome then 1 else 0
  originalProvider : r.originalProvider = original

theorem respond_servedBy {req : Request} {p : Provider} {comp : Completion} {latencyMs : Nat}
    {original : Option Provider} {r : Response}
    (h : respond req p comp latencyMs original = .ok r) : ServedBy req p original r := by
  unfold respond Response.ofCompletion at h
  revert h
  rcases addChecked comp.inputTokens comp.outputTokens with c | total
  · exact nofun
  · cases original <;> intro h <;> cases h <;> exact ⟨rfl, rfl, rfl, rfl⟩

/-- Finishing crashes while building the response, leaving the state as it was, or answers
with the response it built once the store has taken it. -/
theorem exec_finish (req : Request) (p : Provider) (comp : Completion) (started : Nat)
    (original : Option Provider) (g : Gateway) :
    (finish req p comp started original).exec g =
      match respond req p comp (g.clock - started) original with
      | .error crash => (.error (.crash crash), g)
      | .ok r => match (storeSet req r).exec g with
        | (.ok _, g') => (.ok r, g')
        | (.error s, g') => (.error s, g') := by
  unfold finish
  rw [exec_bind, exec_now]
  dsimp only
  rcases respond req p comp (g.clock - started) original with crash | r
  · rfl
  · dsimp only
    rw [exec_bind, exec_discard]
    rcases (storeSet req r).exec g with ⟨_ | _, g'⟩ <;> rfl

theorem movesRegistry_finish {R : Registry → Registry → Prop} (hR : RegistryMoves R)
    (req : Request) (p : Provider) (comp : Completion) (started : Nat)
    (original : Option Provider) : MovesRegistry R (finish req p comp started original) :=
  MovesRegistry.of_registry hR fun g => by
    rw [exec_finish]
    rcases respond req p comp (g.clock - started) original with crash | r
    · rfl
    · dsimp only
      rw [exec_storeSet]
      rcases (g.store.set req r g.clock).1 with c | x <;> rfl

theorem startsNoCall_finish (req : Request) (p : Provider) (comp : Completion) (started : Nat)
    (original : Option Provider) : StartsNoCall (finish req p comp started original) :=
  movesRegistry_finish NoCallBetween.moves req p comp started original

theorem finish_servedBy {req : Request} {p : Provider} {comp : Completion} {started : Nat}
    {original : Option Provider} {g g' : Gateway} {r : Response}
    (h : (finish req p comp started original).exec g = (.ok r, g')) :
    ServedBy req p original r := by
  rw [exec_finish] at h
  split at h
  · cases h
  · rename_i r' hr
    split at h
    · cases h
      exact respond_servedBy hr
    · cases h

/-- Finishing stops only on a crash: of the checked token sum, or of the store. -/
theorem finish_crash {req : Request} {p : Provider} {comp : Completion} {started : Nat}
    {original : Option Provider} {g g' : Gateway} {s : Stop}
    (h : (finish req p comp started original).exec g = (.error s, g')) :
    ∃ c, s = .crash c := by
  rw [exec_finish] at h
  split at h
  · cases h
    exact ⟨_, rfl⟩
  · split at h
    · cases h
    · rename_i s' g₁ hs
      cases h
      rw [exec_storeSet] at hs
      split at hs
      · cases hs
        exact ⟨_, rfl⟩
      · cases hs

end Gateway

end QueryRelay
