import QueryRelay.Proofs.Gateway.Exec
import QueryRelay.Proofs.Waits

/-!
# What a routing step guarantees

A routing step — `Gateway.route` for a fresh request, `Gateway.fallback` after a failure —
reads the list of providers up in the router's map, after a lazy refresh under the request's
context, and chooses among them. Three facts about its choice are what the dispatcher relies
on, and they are proved here once:

* the chosen provider is among the providers up in the map the step read, and that map is
  the one the step leaves behind: choosing draws from the random stream and changes nothing
  else (`Router.choose_up`, `Router.chooseFallback_up`);
* the context is not done at the instant the step ends, so a provider chosen by a routing
  step is called while the context still runs (`route_ends`, `fallback_ends`);
* a replacement is never the provider that failed (`fallback_ends`).

A routing step never stops. When it fails, its failure is the context's, or the router's own
`unavailable` fault when no provider is up (for a replacement: none but the one that failed),
never a report of providers tried (`route_ends`, `fallback_ends`, from `Router.choose_error`
and `Router.chooseFallback_error`).

The second fact rests on how a refresh under a context ends (`Context.check_of_waitFrom`): a
wait that the context did not stop ends at an instant at which the context is still running.
-/

namespace QueryRelay

/-! ## Waiting under a context -/

namespace Context

/-- A wait for work due at `w` that the deadline does not stop ends before the deadline. -/
theorem lt_deadline_of_waitFrom {c : Context} {s w d : Nat} (hd : c.deadline = some d)
    (hnot : ∀ t e, c.waitFrom s (some w) ≠ .stopped t e) : w < d := by
  refine Nat.lt_of_not_le fun hdw => ?_
  have hdl : deadlineOrWork c.deadline (some w) = .stopped d .deadlineExceeded := by
    simp only [deadlineOrWork, hd]
    rw [if_pos hdw]
  unfold waitFrom at hnot
  split at hnot
  · split at hnot
    · exact hnot _ _ rfl
    · exact hnot _ _ hdl
  · exact hnot _ _ hdl

/-- A wait from `s` for work due at `w`, begun with the context running, that the context does
not stop ends with the context still running at `w`. -/
theorem check_of_waitFrom {c : Context} {s w : Nat} (hs : c.check s = .ok ())
    (hnot : ∀ t e, c.waitFrom s (some w) ≠ .stopped t e) : c.check w = .ok () := by
  have hlive : c.cancelledAt s = false ∧ c.expiredAt s = false := by
    unfold check at hs
    split at hs
    · cases hs
    · split at hs
      · cases hs
      · simp_all
  -- the deadline, if any, lies after `w`
  have hexp : c.expiredAt w = false := by
    unfold expiredAt
    split
    · rename_i d hd
      have := lt_deadline_of_waitFrom hd hnot
      simpa using this
    · rfl
  -- a cancellation due strictly before `w` would have stopped the wait
  have hcan : c.cancelledAt w = false := by
    have hs' := hlive.1
    unfold cancelledAt at hs' ⊢
    split
    · rfl
    · rename_i hb
      simp [hb] at hs'
    · rename_i tc hc
      simp only [hc, decide_eq_false_iff_not, Nat.not_lt] at hs' ⊢
      refine Nat.le_of_not_lt fun hlt => hnot tc .cancelled ?_
      have hbefore : strictlyBefore tc c.deadline = true := by
        unfold strictlyBefore
        split
        · rename_i d hd
          have := lt_deadline_of_waitFrom hd hnot
          simp only [decide_eq_true_eq]
          omega
        · rfl
      have hcut : (decide (s ≤ tc) && strictlyBefore tc (some w) &&
          strictlyBefore tc c.deadline) = true := by
        simp only [Bool.and_eq_true, decide_eq_true_eq, hbefore, and_true]
        exact ⟨hs', by simpa [strictlyBefore] using hlt⟩
      unfold waitFrom
      simp only [hc]
      rw [if_pos hcut]
  unfold check
  rw [hcan, hexp]
  rfl

/-- A wait stops only with the context's own failures. -/
theorem isCancellation_of_waitFrom {c : Context} {s : Nat} {e : Option Nat} {t : Nat}
    {f : Failure} (h : c.waitFrom s e = .stopped t f) : f.isCancellation = true :=
  (doneBy_of_waitFrom h).isCancellation

/-- A failed check is the context's own failure. -/
theorem isCancellation_of_check {c : Context} {t : Nat} {f : Failure}
    (h : c.check t = .error f) : f.isCancellation = true :=
  (doneBy_of_check h).isCancellation

end Context

/-! ## Choosing among the providers up -/

namespace Random.Rng

/-- A pick is drawn from the list it picks from. -/
theorem mem_of_pick {α : Type} {r : Rng} {xs : List α} {q : α} (h : (r.pick xs).1 = some q) :
    q ∈ xs := by
  unfold pick at h
  split at h
  · cases h
  · exact List.mem_of_getElem? h

/-- A bounded draw stays below its bound. -/
theorem belowFuel_lt {n : Nat} (hn : 0 < n) (r : Rng) (fuel : Nat) :
    (r.belowFuel n fuel).1 < n := by
  induction fuel generalizing r with
  | zero => exact hn
  | succ fuel ih =>
    unfold belowFuel
    dsimp only
    split
    · -- a word below `2^32`, scaled by `n` and divided by `2^32`, is below `n`
      have hv : r.next.1.toNat < Nat.pow 2 32 := r.next.1.toNat_lt
      exact Nat.div_lt_of_lt_mul (Nat.mul_lt_mul_of_pos_right hv hn)
    · exact ih _

/-- A pick from a list that is not empty picks something. -/
theorem pick_eq_none {α : Type} {r : Rng} {xs : List α} (h : (r.pick xs).1 = none) : xs = [] := by
  unfold pick at h
  split at h
  · rfl
  · rename_i hne
    have hlt := belowFuel_lt (List.length_pos_iff.mpr hne) r 4096
    exact absurd h (by simpa [below] using hlt)

end Random.Rng

namespace Router

/-- The failure of a fresh request when no provider is up. -/
abbrev noProvider : Failure := .provider (ProviderFault.unavailable none "no providers available")

theorem chooseAtRandom_up (r : Router) (L : List Provider) : (r.chooseAtRandom L).2.up = r.up := by
  unfold chooseAtRandom
  rcases r.rng.pick L with ⟨_ | q, rng⟩ <;> split <;> rfl

theorem chooseAtRandom_ok {r : Router} {L : List Provider} {d : RouteDecision}
    (h : (r.chooseAtRandom L).1 = .ok d) : d.provider ∈ L := by
  unfold chooseAtRandom at h
  split at h
  · cases h
  · rcases hp : r.rng.pick L with ⟨_ | q, rng⟩ <;> rw [hp] at h
    · cases h
    · cases h
      exact Random.Rng.mem_of_pick (by rw [hp])

theorem chooseAtRandom_error {r : Router} {L : List Provider} {e : Failure}
    (h : (r.chooseAtRandom L).1 = .error e) : e = noProvider ∧ L = [] := by
  unfold chooseAtRandom at h
  split at h
  · cases h
    exact ⟨rfl, rfl⟩
  · rcases hp : r.rng.pick L with ⟨_ | q, rng⟩ <;> rw [hp] at h
    · cases h
      exact ⟨rfl, Random.Rng.pick_eq_none (by rw [hp])⟩
    · cases h

theorem chooseByTask_up (r : Router) (L : List Provider) (req : Request) :
    (r.chooseByTask L req).2.up = r.up := by
  unfold chooseByTask
  split
  · split
    · rfl
    · exact chooseAtRandom_up r L
  · exact chooseAtRandom_up r L

theorem chooseByTask_ok {r : Router} {L : List Provider} {req : Request} {d : RouteDecision}
    (h : (r.chooseByTask L req).1 = .ok d) : d.provider ∈ L := by
  unfold chooseByTask at h
  split at h
  · split at h
    · rename_i q _ hq
      cases h
      exact List.mem_of_elem_eq_true hq
    · exact chooseAtRandom_ok h
  · exact chooseAtRandom_ok h

theorem chooseByTask_error {r : Router} {L : List Provider} {req : Request} {e : Failure}
    (h : (r.chooseByTask L req).1 = .error e) : e = noProvider ∧ L = [] := by
  unfold chooseByTask at h
  split at h
  · split at h
    · cases h
    · exact chooseAtRandom_error h
  · exact chooseAtRandom_error h

/-- Choosing for a fresh request draws from the random stream and changes nothing else. -/
theorem choose_up (r : Router) (L : List Provider) (req : Request) :
    (r.choose L req).2.up = r.up := by
  unfold choose
  split
  · split
    · rfl
    · exact chooseByTask_up r L req
  · exact chooseByTask_up r L req

@[simp] theorem available_choose (r : Router) (L : List Provider) (req : Request) :
    (r.choose L req).2.available = r.available := by
  unfold available
  rw [choose_up]

/-- **A fresh request goes to a provider up.** -/
theorem choose_ok {r : Router} {L : List Provider} {req : Request} {d : RouteDecision}
    (h : (r.choose L req).1 = .ok d) : d.provider ∈ L := by
  unfold choose at h
  split at h
  · split at h
    · rename_i p _ hp
      cases h
      exact List.mem_of_elem_eq_true hp
    · exact chooseByTask_ok h
  · exact chooseByTask_ok h

/-- The only way a fresh request finds no provider is that none is up. -/
theorem choose_error {r : Router} {L : List Provider} {req : Request} {e : Failure}
    (h : (r.choose L req).1 = .error e) : e = noProvider ∧ L = [] := by
  unfold choose at h
  split at h
  · split at h
    · cases h
    · exact chooseByTask_error h
  · exact chooseByTask_error h

theorem chooseFallback_up (r : Router) (L : List Provider) (original : Provider)
    (preferred : Option Provider) : (r.chooseFallback L original preferred).2.up = r.up := by
  unfold chooseFallback
  dsimp only
  generalize r.rng.pick (L.filter (· ≠ original)) = drawn
  -- every branch answers with the router itself or with its random stream moved on
  rcases drawn with ⟨_ | q, rng⟩ <;> dsimp only
  all_goals
    split
    · rfl
    · split
      · split <;> rfl
      · rfl

@[simp] theorem available_chooseFallback (r : Router) (L : List Provider) (original : Provider)
    (preferred : Option Provider) :
    (r.chooseFallback L original preferred).2.available = r.available := by
  unfold available
  rw [chooseFallback_up]

/-- **A replacement is up and is not the provider that failed.** -/
theorem chooseFallback_ok {r : Router} {L : List Provider} {original : Provider}
    {preferred : Option Provider} {d : RouteDecision}
    (h : (r.chooseFallback L original preferred).1 = .ok d) :
    d.provider ∈ L ∧ d.provider ≠ original := by
  -- every candidate is a provider up other than `original`
  have hcand : ∀ q, q ∈ L.filter (· ≠ original) → q ∈ L ∧ q ≠ original := by
    intro q hq
    simpa using hq
  unfold chooseFallback at h
  dsimp only at h
  rcases hp : r.rng.pick (L.filter (· ≠ original)) with ⟨_ | q, rng⟩ <;> rw [hp] at h <;>
    dsimp only at h
  · -- no random candidate could be drawn: only the preference can have been taken
    split at h
    · cases h
    · split at h
      · split at h
        · rename_i _ p hpref
          cases h
          simp only [Bool.and_eq_true, decide_eq_true_eq] at hpref
          exact hcand p (List.mem_of_elem_eq_true hpref.2)
        · cases h
      · cases h
  · split at h
    · cases h
    · have hq : q ∈ L ∧ q ≠ original := hcand q (Random.Rng.mem_of_pick (by rw [hp]))
      split at h
      · split at h
        · rename_i _ p hpref
          cases h
          simp only [Bool.and_eq_true, decide_eq_true_eq] at hpref
          exact hcand p (List.mem_of_elem_eq_true hpref.2)
        · cases h
          exact hq
      · cases h
        exact hq

/-- **No replacement is found only when no provider but the one that failed is up.** -/
theorem chooseFallback_error {r : Router} {L : List Provider} {original : Provider}
    {preferred : Option Provider} {e : Failure}
    (h : (r.chooseFallback L original preferred).1 = .error e) : ∀ q ∈ L, q = original := by
  -- it suffices that no provider up is a candidate
  suffices hnil : L.filter (· ≠ original) = [] by
    intro q hq
    simpa using List.filter_eq_nil_iff.mp hnil q hq
  unfold chooseFallback at h
  dsimp only at h
  split at h
  · rename_i hempty
    exact List.isEmpty_iff.mp hempty
  · rcases hp : r.rng.pick (L.filter (· ≠ original)) with ⟨_ | q, rng⟩ <;> rw [hp] at h <;>
      dsimp only at h
    · exact Random.Rng.pick_eq_none (by rw [hp])
    · -- a drawn candidate or the preference is always taken
      split at h
      · split at h <;> cases h
      · cases h

end Router

/-! ## The routing steps of the gateway -/

namespace Gateway

open GatewayM

/-- How a wait under a context may end: with the context still running, or cut short by the
context's own failure. -/
structure KeepsContext (ctx : Context) (r : Except Failure Unit) (g : Gateway) : Prop where
  running : r = .ok () → ctx.check g.clock = .ok ()
  own : ∀ e, r = .error e → e.isCancellation = true

theorem checkNow_ends (ctx : Context) (g : Gateway) :
    Ends (checkNow ctx) g (fun r g' => r = ctx.check g.clock ∧ g = g') :=
  Ends.of_exec (exec_checkNow ctx g) ⟨rfl, rfl⟩

/-- A refresh begun with the context running never stops, and leaves it running unless the
context itself cut the refresh short. -/
theorem refreshFrom_ends {c : Context} {g : Gateway} (hc : c.check g.clock = .ok ()) :
    Ends (refreshFrom (some c)) g (KeepsContext c) := by
  rcases g with ⟨clock, registry, router, store, fanout, server, limiter, issued, wall⟩
  unfold refreshFrom
  rw [Ends, exec_get_bind]
  dsimp only
  split
  · rename_i t e hstop
    refine ⟨.error e, _, rfl, ⟨nofun, fun e' he => ?_⟩⟩
    cases he
    exact Context.isCancellation_of_waitFrom hstop
  · rename_i hnot
    exact ⟨.ok (), _, rfl, ⟨fun _ => Context.check_of_waitFrom hc hnot, nofun⟩⟩

theorem refreshWithin_ends (ctx : Context) (g : Gateway) :
    Ends (refreshWithin ctx) g (KeepsContext ctx) := by
  unfold refreshWithin
  refine Ends.bind (checkNow_ends ctx g) ?_
  rintro r g₁ ⟨rfl, rfl⟩
  rcases hck : ctx.check g.clock with e | ⟨⟩
  · refine Ends.pure ⟨nofun, fun e' (he : Except.error e = .error e') => ?_⟩
    cases he
    exact Context.isCancellation_of_check hck
  · refine Ends.get_bind ?_
    split
    · exact refreshFrom_ends hck
    · exact Ends.pure ⟨fun _ => hck, nofun⟩

/-- The providers a routing step reads are those up in the map it leaves, and the context is
still running when it has them. -/
theorem availableWithin_ends (ctx : Context) (g : Gateway) :
    Ends (availableWithin ctx) g (fun r g' =>
      (∀ up, r = .ok up → up = g'.router.available ∧ ctx.check g'.clock = .ok ()) ∧
      ∀ e, r = .error e → e.isCancellation = true) := by
  unfold availableWithin
  refine Ends.bind (refreshWithin_ends ctx g) fun r g₁ hkeep => ?_
  rcases r with e | ⟨⟩
  · refine Ends.pure ⟨nofun, ?_⟩
    rintro e' ⟨⟩
    exact hkeep.own e rfl
  · refine Ends.get_bind (Ends.pure ⟨?_, nofun⟩)
    rintro up ⟨⟩
    exact ⟨rfl, hkeep.running rfl⟩

/-- A choice made on the router, which replaces it. -/
theorem exec_choice {α : Type} (choose : Router → α × Router) (g : Gateway) :
    (do
      let g ← get
      let (d, router) := choose g.router
      set { g with router }
      return d : GatewayM α).exec g =
      (.ok (choose g.router).1, { g with router := (choose g.router).2 }) := by
  rw [exec_get_bind]
  rfl

/-- A routing step whose context is already done fails with the context's failure and changes
nothing. -/
theorem exec_route_of_check {ctx : Context} {g : Gateway} {e : Failure}
    (h : ctx.check g.clock = .error e) (req : Request) :
    (route ctx req).exec g = (.ok (.error e), g) := by
  unfold route
  rw [exec_bind, exec_checkNow]
  dsimp only
  rw [h]
  rfl

/-- **What routing a fresh request guarantees.** It never stops. The provider it chooses is
up in the map it read, which is the map it leaves, and the context is still running when it
ends. It fails only with the context's failure, or because no provider is up in that map. -/
theorem route_ends (ctx : Context) (req : Request) (g : Gateway) :
    Ends (route ctx req) g (fun r g' =>
      (∀ d, r = .ok d → d.provider ∈ g'.router.available ∧ ctx.check g'.clock = .ok ()) ∧
      ∀ e, r = .error e →
        e.isCancellation = true ∨ e = Router.noProvider ∧ g'.router.available = []) := by
  unfold route
  refine Ends.bind (checkNow_ends ctx g) ?_
  rintro r g₁ ⟨rfl, rfl⟩
  rcases hck : ctx.check g.clock with e | ⟨⟩
  · refine Ends.pure ⟨nofun, fun e' he => ?_⟩
    cases he
    exact .inl (Context.isCancellation_of_check hck)
  · refine Ends.bind (availableWithin_ends ctx g) fun r g₂ ⟨hok, herr⟩ => ?_
    rcases r with e | up
    · refine Ends.pure ⟨nofun, fun e' he => ?_⟩
      cases he
      exact .inl (herr e rfl)
    · refine Ends.bind (checkNow_ends ctx g₂) ?_
      rintro r g₃ ⟨rfl, rfl⟩
      rcases hck₂ : ctx.check g₂.clock with e | ⟨⟩
      · refine Ends.pure ⟨nofun, fun e' he => ?_⟩
        cases he
        exact .inl (Context.isCancellation_of_check hck₂)
      · -- the choice draws from `up`, the map's providers, and keeps the map
        have hup : (g₂.router.choose up req).2.available = up := by
          rw [Router.available_choose, ← (hok up rfl).1]
        refine Ends.of_exec (exec_choice (fun r => r.choose up req) g₂)
          ⟨fun d hd => ⟨?_, hck₂⟩, fun e he => .inr ⟨(Router.choose_error he).1, ?_⟩⟩
        · show d.provider ∈ (g₂.router.choose up req).2.available
          rw [hup]
          exact Router.choose_ok hd
        · show (g₂.router.choose up req).2.available = []
          rw [hup]
          exact (Router.choose_error he).2

/-- **What choosing a replacement guarantees.** It never stops. A replacement is up in the map
the step read and leaves, is not the provider that failed, and is chosen while the context
is still running. For a retryable failure, it finds none only when the context ended or no
provider but the one that failed is up in that map. -/
theorem fallback_ends (ctx : Context) (original : Provider) (req : Request) (err : Failure)
    (g : Gateway) :
    Ends (fallback ctx original req err) g (fun r g' =>
      (∀ d, r = .ok d → d.provider ∈ g'.router.available ∧ d.provider ≠ original ∧
        ctx.check g'.clock = .ok ()) ∧
      ∀ e, r = .error e → err.isRetryable = true →
        e.isCancellation = true ∨ ∀ q ∈ g'.router.available, q = original) := by
  unfold fallback
  split
  · rename_i hnot
    exact Ends.pure ⟨nofun, fun _ _ hr => absurd hr (by simpa using hnot)⟩
  · refine Ends.bind (checkNow_ends ctx g) ?_
    rintro r g₁ ⟨rfl, rfl⟩
    rcases hck : ctx.check g.clock with e | ⟨⟩
    · refine Ends.pure ⟨nofun, fun e' he _ => ?_⟩
      cases he
      exact .inl (Context.isCancellation_of_check hck)
    · refine Ends.bind (availableWithin_ends ctx g) fun r g₂ ⟨hok, herr⟩ => ?_
      rcases r with e | up
      · refine Ends.pure ⟨nofun, fun e' he _ => ?_⟩
        cases he
        exact .inl (herr e rfl)
      · obtain ⟨hup, hck⟩ := hok up rfl
        have hkeep : (g₂.router.chooseFallback up original req.provider).2.available = up := by
          rw [Router.available_chooseFallback, ← hup]
        refine Ends.of_exec
          (exec_choice (fun r => r.chooseFallback up original req.provider) g₂)
          ⟨fun d hd => ?_, fun e he _ => .inr fun q hq => ?_⟩
        · obtain ⟨hmem, hne⟩ := Router.chooseFallback_ok hd
          refine ⟨?_, hne, hck⟩
          show d.provider ∈ (g₂.router.chooseFallback up original req.provider).2.available
          rw [hkeep]
          exact hmem
        · change q ∈ (g₂.router.chooseFallback up original req.provider).2.available at hq
          rw [hkeep] at hq
          exact Router.chooseFallback_error he q hq

end Gateway

end QueryRelay
