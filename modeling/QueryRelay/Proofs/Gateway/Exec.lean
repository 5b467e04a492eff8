import QueryRelay.Gateway.Dispatch

/-!
# Running gateway operations

An operation of `GatewayM` is run from a gateway state and gives how it ended together with
the state it left (`GatewayM.exec`). Everything said about the dispatcher is said through
`exec`, and the few laws here are what later proofs rewrite with: the bind law, the laws of
`get` and `set`, and one equation for each small operation of `Gateway`.

## Operations that never look at the store

Most of the gateway does not touch the response store: routing, refreshing availability and
calling providers read and write the clock, the registry and the router only. Such an
operation is *store-blind* (`StoreBlind`): run from a state whose store was replaced, it ends
the same way, in the state it would have left with the store replaced the same way. In
particular it leaves the store as it found it (`StoreBlind.store_eq`).

Store-blindness is closed under `bind` (`StoreBlind.bind`) and under reading the state when
what is done next depends on the other fields only (`StoreBlind.get_bind`), so it is proved
once per operation, one level at a time, and never by unfolding a whole call tree.
-/

namespace QueryRelay

/-- Run an operation from a gateway state: how it ended and the state it left. -/
def GatewayM.exec {α : Type} (m : GatewayM α) (g : Gateway) : Except Stop α × Gateway :=
  m.run.run g

namespace GatewayM

variable {α β : Type}

/-- **The bind law.** A stop of the first operation ends the whole, in the state it left. -/
theorem exec_bind (x : GatewayM α) (f : α → GatewayM β) (g : Gateway) :
    (x >>= f).exec g = match x.exec g with
      | (.ok a, g') => (f a).exec g'
      | (.error s, g') => (.error s, g') := by
  simp only [exec, ExceptT.run_bind, StateT.run_bind]
  rcases x.run.run g with ⟨_ | _, g'⟩ <;> rfl

theorem exec_bind_of_ok {x : GatewayM α} {g g' : Gateway} {a : α} (h : x.exec g = (.ok a, g'))
    (f : α → GatewayM β) : (x >>= f).exec g = (f a).exec g' := by
  rw [exec_bind, h]

theorem exec_bind_of_error {x : GatewayM α} {g g' : Gateway} {s : Stop}
    (h : x.exec g = (.error s, g')) (f : α → GatewayM β) : (x >>= f).exec g = (.error s, g') := by
  rw [exec_bind, h]

@[simp] theorem exec_pure (a : α) (g : Gateway) : (pure a : GatewayM α).exec g = (.ok a, g) :=
  rfl

@[simp] theorem exec_throw (s : Stop) (g : Gateway) :
    (throw s : GatewayM α).exec g = (.error s, g) := rfl

@[simp] theorem exec_get_bind (k : Gateway → GatewayM α) (g : Gateway) :
    (get >>= k).exec g = (k g).exec g := rfl

@[simp] theorem exec_set_bind (g' : Gateway) (k : PUnit → GatewayM α) (g : Gateway) :
    (set g' >>= k).exec g = (k ⟨⟩).exec g' := rfl

@[simp] theorem exec_map_set {γ : Type} (f : PUnit → γ) (g' g : Gateway) :
    (f <$> (set g' : GatewayM PUnit)).exec g = (.ok (f ⟨⟩), g') := rfl

/-- Discarding an operation's value keeps how it ends otherwise. -/
theorem exec_discard (x : GatewayM α) (g : Gateway) :
    (discard x).exec g = match x.exec g with
      | (.ok _, g') => (.ok (), g')
      | (.error s, g') => (.error s, g') := by
  change ((fun _ => ()) <$> x).exec g = _
  rw [map_eq_pure_bind, exec_bind]
  rcases x.exec g with ⟨_ | _, g'⟩ <;> rfl

/-- Run from `g`, the operation does not stop, and how it ends satisfies `P`. -/
def Ends (m : GatewayM α) (g : Gateway) (P : α → Gateway → Prop) : Prop :=
  ∃ a g', m.exec g = (.ok a, g') ∧ P a g'

namespace Ends

variable {m : GatewayM α} {g : Gateway} {P Q : α → Gateway → Prop}

theorem of_exec {a : α} {g' : Gateway} (h : m.exec g = (.ok a, g')) (hp : P a g') : Ends m g P :=
  ⟨a, g', h, hp⟩

/-- What an operation that ends is known to end with. -/
theorem elim (h : Ends m g P) {r : Except Stop α} {g' : Gateway} (hr : m.exec g = (r, g')) :
    ∃ a, r = .ok a ∧ P a g' := by
  obtain ⟨a, g'', he, hp⟩ := h
  rw [hr] at he
  cases he
  exact ⟨a, rfl, hp⟩

theorem mono (h : Ends m g P) (hPQ : ∀ a g', P a g' → Q a g') : Ends m g Q := by
  obtain ⟨a, g', he, hp⟩ := h
  exact ⟨a, g', he, hPQ a g' hp⟩

theorem pure {a : α} (h : P a g) : Ends (pure a) g P := ⟨a, g, rfl, h⟩

theorem bind {x : GatewayM β} {f : β → GatewayM α} {R : β → Gateway → Prop}
    (hx : Ends x g R) (hf : ∀ b g', R b g' → Ends (f b) g' P) : Ends (x >>= f) g P := by
  obtain ⟨b, g', he, hr⟩ := hx
  obtain ⟨a, g'', he', hp⟩ := hf b g' hr
  exact ⟨a, g'', by rw [exec_bind_of_ok he, he'], hp⟩

theorem get_bind {k : Gateway → GatewayM α} (h : Ends (k g) g P) : Ends (get >>= k) g P := by
  obtain ⟨a, g', he, hp⟩ := h
  exact ⟨a, g', by rw [exec_get_bind, he], hp⟩

end Ends

end GatewayM

namespace Gateway

open GatewayM

/-! ## The small operations -/

@[simp] theorem exec_now (g : Gateway) : now.exec g = (.ok g.clock, g) := rfl

@[simp] theorem exec_checkNow (ctx : Context) (g : Gateway) :
    (checkNow ctx).exec g = (.ok (ctx.check g.clock), g) := rfl

@[simp] theorem exec_advanceTo (t : Nat) (g : Gateway) :
    (advanceTo t).exec g = (.ok (), { g with clock := max g.clock t }) := rfl

@[simp] theorem exec_modifyRegistry (f : Registry → Registry) (g : Gateway) :
    (modifyRegistry f).exec g = (.ok (), { g with registry := f g.registry }) := rfl

@[simp] theorem exec_storeGet (req : Request) (g : Gateway) :
    (storeGet req).exec g =
      (.ok (g.store.get req g.clock).1, { g with store := (g.store.get req g.clock).2 }) := rfl

/-- A store write that crashes stops the operation, in the state with the store as the write
left it; otherwise its failure, if any, is handed back. -/
theorem exec_storeSet (req : Request) (r : Response) (g : Gateway) :
    (storeSet req r).exec g =
      match (g.store.set req r g.clock).1 with
      | .error c => (.error (.crash c), { g with store := (g.store.set req r g.clock).2 })
      | .ok x => (.ok x, { g with store := (g.store.set req r g.clock).2 }) := by
  unfold storeSet
  rw [exec_get_bind]
  rcases g.store.set req r g.clock with ⟨c | x, st⟩ <;> rfl

end Gateway

/-! ## Store-blind operations -/

/-- Run from a state whose store was replaced, the operation ends the same way, in the state
it leaves otherwise with the store replaced the same way. -/
def StoreBlind {α : Type} (m : GatewayM α) : Prop :=
  ∀ g s, m.exec { g with store := s } = ((m.exec g).1, { (m.exec g).2 with store := s })

namespace StoreBlind

open GatewayM

variable {α β : Type}

/-- A store-blind operation leaves the store as it found it. -/
theorem store_eq {m : GatewayM α} (hm : StoreBlind m) (g : Gateway) :
    (m.exec g).2.store = g.store := by
  have h := hm g g.store
  have hg : ({ g with store := g.store } : Gateway) = g := rfl
  rw [hg] at h
  rw [congrArg (fun x => x.2.store) h]

theorem pure (a : α) : StoreBlind (pure a : GatewayM α) := fun _ _ => rfl

theorem throw (s : Stop) : StoreBlind (throw s : GatewayM α) := fun _ _ => rfl

theorem bind {x : GatewayM α} {f : α → GatewayM β} (hx : StoreBlind x)
    (hf : ∀ a, StoreBlind (f a)) : StoreBlind (x >>= f) := by
  intro g s
  rw [exec_bind, exec_bind, hx g s]
  rcases x.exec g with ⟨_ | a, g'⟩
  · rfl
  · exact hf a g' s

/-- Reading the state is store-blind when what follows does not depend on the store. -/
theorem get_bind {k : Gateway → GatewayM α} (hk : ∀ g s, k { g with store := s } = k g)
    (hblind : ∀ g, StoreBlind (k g)) : StoreBlind (get >>= k) := by
  intro g s
  rw [exec_get_bind, exec_get_bind, hk g s]
  exact hblind g g s

end StoreBlind

namespace Gateway

open GatewayM

theorem storeBlind_checkNow (ctx : Context) : StoreBlind (checkNow ctx) := fun _ _ => rfl

theorem storeBlind_advanceTo (t : Nat) : StoreBlind (advanceTo t) := fun _ _ => rfl

theorem storeBlind_modifyRegistry (f : Registry → Registry) : StoreBlind (modifyRegistry f) :=
  fun _ _ => rfl

theorem storeBlind_refreshFrom (c : Option Context) : StoreBlind (refreshFrom c) := by
  -- with the fields named, both runs wait on the same instants and end in the same branch
  rintro ⟨clock, registry, router, store, fanout, server, limiter, issued, wall⟩ s
  unfold refreshFrom
  rw [exec_get_bind, exec_get_bind]
  dsimp only
  split <;> rfl

theorem storeBlind_refreshWithin (ctx : Context) : StoreBlind (refreshWithin ctx) := by
  unfold refreshWithin
  refine StoreBlind.bind (storeBlind_checkNow ctx) fun r => ?_
  rcases r with e | ⟨⟩
  · exact StoreBlind.pure _
  · refine StoreBlind.get_bind (fun _ _ => rfl) fun g => ?_
    split
    · exact storeBlind_refreshFrom _
    · exact StoreBlind.pure _

theorem storeBlind_availableWithin (ctx : Context) : StoreBlind (availableWithin ctx) := by
  unfold availableWithin
  refine StoreBlind.bind (storeBlind_refreshWithin ctx) fun r => ?_
  rcases r with e | ⟨⟩
  · exact StoreBlind.pure _
  · exact StoreBlind.get_bind (fun _ _ => rfl) fun _ => StoreBlind.pure _

/-- Replacing the router by a choice made on it, and answering with the choice. -/
theorem storeBlind_choice {α : Type} (choose : Router → α × Router) :
    StoreBlind (do
      let g ← get
      let (d, router) := choose g.router
      set { g with router }
      return d) := by
  intro g s
  rw [exec_get_bind, exec_get_bind]
  rfl

theorem storeBlind_route (ctx : Context) (req : Request) : StoreBlind (route ctx req) := by
  unfold route
  refine StoreBlind.bind (storeBlind_checkNow ctx) fun r => ?_
  rcases r with e | ⟨⟩
  · exact StoreBlind.pure _
  · refine StoreBlind.bind (storeBlind_availableWithin ctx) fun r => ?_
    rcases r with e | up
    · exact StoreBlind.pure _
    · refine StoreBlind.bind (storeBlind_checkNow ctx) fun r => ?_
      rcases r with e | ⟨⟩
      · exact StoreBlind.pure _
      · exact storeBlind_choice (fun r => r.choose up req)

theorem storeBlind_fallback (ctx : Context) (original : Provider) (req : Request)
    (err : Failure) : StoreBlind (fallback ctx original req err) := by
  unfold fallback
  split
  · exact StoreBlind.pure _
  · refine StoreBlind.bind (storeBlind_checkNow ctx) fun r => ?_
    rcases r with e | ⟨⟩
    · exact StoreBlind.pure _
    · refine StoreBlind.bind (storeBlind_availableWithin ctx) fun r => ?_
      rcases r with e | up
      · exact StoreBlind.pure _
      · exact storeBlind_choice (fun r => r.chooseFallback up original req.provider)

theorem storeBlind_invoke (ctx : Context) (p : Provider) (req : Request) :
    StoreBlind (invoke ctx p req) := by
  unfold invoke
  refine StoreBlind.get_bind (fun _ _ => rfl) fun g => ?_
  split
  · exact StoreBlind.pure _
  · refine StoreBlind.bind (storeBlind_modifyRegistry _) fun _ => ?_
    split
    · exact StoreBlind.throw _
    · exact StoreBlind.bind (storeBlind_advanceTo _) fun _ => StoreBlind.throw _
    · refine StoreBlind.bind (storeBlind_advanceTo _) fun _ => ?_
      exact StoreBlind.bind (storeBlind_modifyRegistry _) fun _ => StoreBlind.pure _
    · refine StoreBlind.bind (storeBlind_advanceTo _) fun _ => ?_
      split
      · exact StoreBlind.bind (storeBlind_modifyRegistry _) fun _ => StoreBlind.pure _
      · exact StoreBlind.pure _

end Gateway

end QueryRelay
