import QueryRelay.Proofs.Gateway.Fanout
import QueryRelay.Proofs.Keyed

/-!
# Refreshing availability

A refresh probes every client and rewrites the router's map of which providers are up. This
file pins down the map after every way a refresh can go, for every registry, every client
(availability flag and probe delay) and every map it starts from.

## The map as a lookup

`UpMap.lookup m p` is the flag the map holds for `p`, if it names `p`. Setting a flag has one
law (`UpMap.lookup_set`), and a map, kept in provider order as every map is, is determined by
its lookup (`UpMap.ext_of_lookup`). Setting flags from a list that names each provider once
leaves, for each provider, the flag its own item sets (`UpMap.lookup_foldl_setIf`).

## What a probe answers

A client's availability check answers a flag after a delay (`Backend.checkAvailability`): a
scripted client its own flag after its probe delay, a hosted client at once whether its API
key is set. The probe waits for the check at most the router's probe timeout, and an answer
exactly at the timeout still counts (`Backend.probe_fst`); the probe's *verdict* is the check's
flag if it came in time and `false` otherwise (`Backend.verdict`).

## The two ends of a refresh

A refresh from `g` first marks every provider without a client as down (`downUnregistered`),
then probes every client at once (`exec_refreshFrom`).

* Run to its end, it leaves exactly the map `refreshedMap g`: each of the six providers with
  its client's verdict, or down without a client, whatever the map held before; and it stamps
  the instant it ended as the last refresh (`refreshFrom_complete`).
* Cut short by its context at `t`, it keeps the marks of the providers without a client and
  the verdicts that came in by then, leaves every other flag as it was, and stamps nothing, so
  the map stays stale (`refreshFrom_cut`, `wantsRefresh_of_cut`).

## When the router refreshes

A refresh probes every scripted client once more (`probesOf_probedRegistry`), and that is how
a refresh is seen from outside. The steps that read the map (the snapshot reads, routing a
fresh request, choosing a replacement, and a fan-out to no provider in particular) refresh
exactly when one is due: the router refreshes on its own, its map is stale, and, for a step
under a context, the context still runs (`refreshDue`; `route_registry` and the lemmas beside
it).
-/

namespace QueryRelay

/-! ## The map as a lookup -/

namespace UpMap

/-- The flag the map holds for a provider, if it names it. -/
def lookup (m : UpMap) (p : Provider) : Option Bool :=
  (m.flags.find? (fun e => e.1 == p)).map Prod.snd

/-- **The law of setting a flag.** Whatever the map, setting `p`'s flag changes what it holds
for `p` and nothing else. -/
theorem lookup_set (m : UpMap) (p q : Provider) (b : Bool) :
    (m.set p b).lookup q = if q = p then some b else m.lookup q := by
  unfold lookup set
  dsimp only
  split
  · rename_i h
    subst h
    rw [find?_insertKeyed_self]
    rfl
  · rename_i h
    rw [find?_insertKeyed_of_ne _ _ _ h]

/-- **Maps are their lookups.** -/
theorem ext_of_lookup {m₁ m₂ : UpMap} (h : ∀ p, m₁.lookup p = m₂.lookup p) : m₁ = m₂ := by
  refine UpMap.ext (eq_of_find?_eq m₁.ordered m₂.ordered fun p => ?_)
  rw [find?_eq_map_snd m₁.flags, find?_eq_map_snd m₂.flags]
  exact congrArg (Option.map (Prod.mk p)) (h p)

/-- **Setting flags from a list.** Folding conditional sets over a list that names each
provider at most once leaves, for each provider, the flag its item sets, if it has an item that
is kept, and what the map held before otherwise. -/
theorem lookup_foldl_setIf {α : Type} (L : List α) (key : α → Provider) (keep val : α → Bool)
    (hL : (L.map key).Nodup) (m : UpMap) (q : Provider) :
    (L.foldl (fun m x => if keep x then m.set (key x) (val x) else m) m).lookup q =
      match L.find? (fun x => key x == q) with
      | some x => if keep x then some (val x) else m.lookup q
      | none => m.lookup q := by
  -- on the list; an item with another key leaves `q`'s flag alone, and the item with key `q`
  -- is the last one to touch it
  induction L generalizing m with
  | nil => rfl
  | cons x rest ih =>
    obtain ⟨hx, hrest⟩ := List.nodup_cons.1 hL
    rw [List.foldl_cons, ih hrest, List.find?_cons]
    by_cases hk : key x = q
    · have hnone : rest.find? (fun x => key x == q) = none :=
        List.find?_eq_none.2 fun y hy hyq =>
          hx (List.mem_map.2 ⟨y, hy, (beq_iff_eq.1 hyq).trans hk.symm⟩)
      rw [hnone]
      by_cases hkx : keep x = true <;> simp [hk, hkx, lookup_set]
    · have hne : ∀ m : UpMap, (if keep x then m.set (key x) (val x) else m).lookup q = m.lookup q :=
        fun m => by by_cases hkx : keep x = true <;> simp [hkx, lookup_set, Ne.symm hk]
      have hkq : (key x == q) = false := by simpa using hk
      simp only [hkq, hne]

end UpMap

/-! ## What a probe answers -/

/-- Every provider is found in the list of all providers. -/
theorem Provider.find?_all_beq (q : Provider) : Provider.all.find? (fun p => p == q) = some q := by
  cases q <;> rfl

namespace Router

/-- Folding conditional flag settings over a router changes its map and nothing else. -/
theorem foldl_setAvailabilityIf {α : Type} (L : List α) (key : α → Provider)
    (keep val : α → Bool) (r : Router) :
    L.foldl (fun r x => if keep x then r.setAvailability (key x) (val x) else r) r =
      { r with up := L.foldl (fun m x => if keep x then m.set (key x) (val x) else m) r.up } := by
  induction L generalizing r with
  | nil => rfl
  | cons x rest ih =>
    rw [List.foldl_cons, ih, List.foldl_cons]
    by_cases hkx : keep x = true <;> simp [hkx, setAvailability]

/-- A stale map stays stale as time goes on, until the next complete refresh. -/
theorem isStale_mono {r : Router} {t t' : Nat} (h : t ≤ t') (hs : r.isStale t = true) :
    r.isStale t' = true := by
  unfold isStale at *
  split at hs
  · rfl
  · simp only [ge_iff_le, decide_eq_true_eq] at hs ⊢
    omega

end Router

namespace Backend

/-- What a client's availability check answers, and after how long: a scripted client its own
flag after its probe delay, a hosted client at once whether its API key is set. -/
def checkAvailability : Backend → Nat × Bool
  | .scripted b => (b.probeDelayMs.getD 0, b.available)
  | .hosted h e => (0, h.hasKey e)

/-- What a probe with this timeout makes of the check: its answer if it came within the
timeout, an answer at the timeout itself included, and `false` otherwise. -/
def verdict (c : Backend) (timeoutMs : Nat) : Bool :=
  decide (c.checkAvailability.1 ≤ timeoutMs) && c.checkAvailability.2

/-- A probe from `s` gives the verdict when the check answers or the timeout falls, whichever
comes first. -/
theorem probe_fst (c : Backend) (timeoutMs s : Nat) :
    (c.probe timeoutMs s).1 = (s + min c.checkAvailability.1 timeoutMs, c.verdict timeoutMs) := by
  cases c with
  | hosted h e => simp [probe, checkAvailability, verdict]
  | scripted b =>
    simp only [probe, ScriptedBackend.probe, checkAvailability, verdict]
    by_cases hd : b.probeDelayMs.getD 0 ≤ timeoutMs
    · rw [if_pos hd, Nat.min_eq_left hd]
      simp only [hd, decide_true, Bool.true_and]
    · rw [if_neg hd, Nat.min_eq_right (Nat.le_of_not_le hd)]
      simp only [hd, decide_false, Bool.false_and]

/-- A probe adds one to a scripted client's count of probes. -/
theorem probes?_probe (c : Backend) (timeoutMs s : Nat) :
    (c.probe timeoutMs s).2.probes? = c.probes?.map (· + 1) := by
  cases c <;> rfl

end Backend

namespace Registry

/-- A provider is among the registered ones exactly when it has a client. -/
theorem providers_contains (reg : Registry) (q : Provider) :
    reg.providers.contains q = (reg.client? q).isSome := by
  simp only [providers, client?, find?]
  cases hf : reg.entries.find? (fun e => e.1 == q) with
  | none =>
    have hno := List.find?_eq_none.1 hf
    refine Bool.eq_false_iff.2 fun hc => ?_
    obtain ⟨e, he, hq⟩ := List.mem_map.1 (List.contains_iff_mem.1 hc)
    exact hno e he (by simp [hq])
  | some e =>
    have hq : e.1 = q := by simpa using List.find?_some hf
    exact List.contains_iff_mem.2 (List.mem_map.2 ⟨e, List.mem_of_find?_eq_some hf, hq⟩)

/-- The probes a provider's client has started, for a scripted client. -/
def probesOf (reg : Registry) (p : Provider) : Option Nat := (reg.client? p).bind Backend.probes?

end Registry

/-! ## The two ends of a refresh -/

namespace GatewayM.Ends

/-- A property of the state every run of an operation that ends leaves holds of its state. -/
theorem exec_snd {α : Type} {m : GatewayM α} {g : Gateway} {Q : Gateway → Prop}
    (h : Ends m g (fun _ g' => Q g')) : Q (m.exec g).2 := by
  obtain ⟨a, g', he, hq⟩ := h
  rw [he]
  exact hq

end GatewayM.Ends

namespace Gateway

open GatewayM

/-- The router once every provider without a client is marked down: a refresh's first step. -/
def downUnregistered (g : Gateway) : Router :=
  Provider.all.foldl
    (fun r p => if g.registry.providers.contains p then r else r.setAvailability p false) g.router

/-- The answers of a refresh from `g`: each client's, with the instant it comes in. -/
def probeAnswers (g : Gateway) : List (Provider × Nat × Bool) :=
  (probeAll g.registry (downUnregistered g).probeTimeoutMs g.clock).1

/-- The registry a refresh from `g` leaves, each client probed once. -/
def probedRegistry (g : Gateway) : Registry :=
  (probeAll g.registry (downUnregistered g).probeTimeoutMs g.clock).2

/-- The instant the last answer of a refresh from `g` comes in. -/
def probeFinish (g : Gateway) : Nat := (probeAnswers g).foldl (fun m a => max m a.2.1) g.clock

/-- The router once the answers due at the instants `keep` accepts are recorded. -/
def recordAnswers (keep : Nat → Bool) (g : Gateway) : Router :=
  (probeAnswers g).foldl (fun r a => if keep a.2.1 then r.setAvailability a.1 a.2.2 else r)
    (downUnregistered g)

/-- How a refresh from `g` ends: a wait under its context for the last answer, if it has one. -/
def refreshEnd (ctx : Option Context) (g : Gateway) : WaitEnd :=
  match ctx with
  | some c => c.waitFrom g.clock (some (probeFinish g))
  | none => .done (probeFinish g)

/-- **A refresh, step by step.** Cut short at `t`, it records the answers in by then; otherwise
it records every answer and stamps the instant the last one came in. -/
theorem exec_refreshFrom (ctx : Option Context) (g : Gateway) :
    (refreshFrom ctx).exec g =
      match refreshEnd ctx g with
      | .stopped t e => (.ok (.error e), { g with
          registry := probedRegistry g
          router := recordAnswers (fun a => arrivedBefore a t e) g
          clock := t })
      | _ => (.ok (.ok ()), { g with
          registry := probedRegistry g
          router := { recordAnswers (fun _ => true) g with lastRefresh := some (probeFinish g) }
          clock := probeFinish g }) := by
  cases ctx with
  | none => rfl
  | some c =>
    -- the wait under the context, written out as the refresh has it
    rcases hE : c.waitFrom g.clock (some (probeFinish g)) with t | ⟨t, e⟩ | _
    all_goals
      simp only [refreshEnd, hE]
      unfold probeFinish probeAnswers downUnregistered at hE
      unfold refreshFrom
      rw [exec_get_bind]
      dsimp only
      simp only [hE]
      rfl

/-! ## What a refresh records -/

theorem downUnregistered_eq (g : Gateway) :
    downUnregistered g = { g.router with
      up := Provider.all.foldl
        (fun m p => if !g.registry.providers.contains p then m.set p false else m) g.router.up } := by
  have hf : (fun (r : Router) p => if g.registry.providers.contains p then r
      else r.setAvailability p false) =
      (fun (r : Router) p => if !g.registry.providers.contains p then r.setAvailability p false
        else r) := by
    funext r p
    cases g.registry.providers.contains p <;> rfl
  unfold downUnregistered
  rw [hf, Router.foldl_setAvailabilityIf]

theorem lookup_downUnregistered (g : Gateway) (q : Provider) :
    (downUnregistered g).up.lookup q =
      if g.registry.providers.contains q then g.router.up.lookup q else some false := by
  rw [downUnregistered_eq]
  dsimp only
  rw [UpMap.lookup_foldl_setIf Provider.all (fun p => p) _ _ (by decide), Provider.find?_all_beq]
  cases hc : g.registry.providers.contains q <;>
    simp only [hc, Bool.not_false, Bool.not_true, Bool.false_eq_true, ↓reduceIte]

/-- Each client's answer: the verdict on its check, in when the check answers or the timeout
falls. -/
theorem probeAnswers_eq (g : Gateway) :
    probeAnswers g = g.registry.entries.map (fun e => (e.1,
      g.clock + min e.2.client.checkAvailability.1 g.router.probeTimeoutMs,
      e.2.client.verdict g.router.probeTimeoutMs)) := by
  unfold probeAnswers
  rw [probeAll_answers, downUnregistered_eq]
  simp only [Backend.probe_fst]

/-- A provider's answer is its registration's. -/
theorem find?_probeAnswers (g : Gateway) (q : Provider) :
    (probeAnswers g).find? (fun a => a.1 == q) = (g.registry.find? q).map (fun r => (q,
      g.clock + min r.client.checkAvailability.1 g.router.probeTimeoutMs,
      r.client.verdict g.router.probeTimeoutMs)) := by
  rw [probeAnswers_eq, List.find?_map]
  unfold Registry.find?
  have hp : (fun a : Provider × Nat × Bool => a.1 == q) ∘ (fun e : Provider × Registration => (e.1,
      g.clock + min e.2.client.checkAvailability.1 g.router.probeTimeoutMs,
      e.2.client.verdict g.router.probeTimeoutMs)) = (fun e => e.1 == q) := rfl
  rw [hp]
  cases hf : g.registry.entries.find? (fun e => e.1 == q) with
  | none => rfl
  | some e =>
    have hq : e.1 = q := by simpa using List.find?_some hf
    simp [hq]

theorem recordAnswers_eq (keep : Nat → Bool) (g : Gateway) :
    recordAnswers keep g = { g.router with
      up := (probeAnswers g).foldl
        (fun m a => if keep a.2.1 then m.set a.1 a.2.2 else m) (downUnregistered g).up } := by
  unfold recordAnswers
  rw [Router.foldl_setAvailabilityIf, downUnregistered_eq]

/-- **What a refresh records, provider by provider.** A provider without a client is down; a
provider with one holds its client's verdict if the answer is kept, and what it held before
otherwise. -/
theorem lookup_recordAnswers (keep : Nat → Bool) (g : Gateway) (q : Provider) :
    (recordAnswers keep g).up.lookup q =
      match g.registry.client? q with
      | none => some false
      | some c =>
        if keep (g.clock + min c.checkAvailability.1 g.router.probeTimeoutMs) then
          some (c.verdict g.router.probeTimeoutMs)
        else g.router.up.lookup q := by
  have hkeys : ((probeAnswers g).map Prod.fst).Nodup := by
    rw [probeAnswers_eq, List.map_map]
    exact g.registry.providers_nodup
  rw [recordAnswers_eq]
  dsimp only
  rw [UpMap.lookup_foldl_setIf _ Prod.fst _ _ hkeys, lookup_downUnregistered,
    Registry.providers_contains, find?_probeAnswers]
  unfold Registry.client?
  cases g.registry.find? q with
  | none => rfl
  | some r => rfl

/-- The map a complete refresh from `g` leaves: each of the six providers in provider order,
with its client's verdict, or down when it has no client. -/
def refreshedMap (g : Gateway) : UpMap :=
  ⟨Provider.all.map fun p => (p, match g.registry.client? p with
    | some c => c.verdict g.router.probeTimeoutMs
    | none => false), List.pairwise_map.2 Provider.all_rank_lt⟩

theorem lookup_refreshedMap (g : Gateway) (q : Provider) :
    (refreshedMap g).lookup q = some (match g.registry.client? q with
      | some c => c.verdict g.router.probeTimeoutMs
      | none => false) := by
  unfold refreshedMap UpMap.lookup
  dsimp only
  rw [List.find?_map]
  have hp : (fun e : Provider × Bool => e.1 == q) ∘ (fun p => (p, match g.registry.client? p with
      | some c => c.verdict g.router.probeTimeoutMs
      | none => false)) = (fun p => p == q) := rfl
  rw [hp, Provider.find?_all_beq]
  rfl

/-- **A complete refresh.** Whatever the map held before, from an earlier refresh or set by
hand, a refresh that runs to its end leaves exactly `refreshedMap g`, stamps the instant it
ended as the last refresh, and keeps the router's other settings. -/
theorem refreshFrom_complete {ctx : Option Context} {g g' : Gateway}
    (h : (refreshFrom ctx).exec g = (.ok (.ok ()), g')) :
    g'.router = { g.router with up := refreshedMap g, lastRefresh := some g'.clock } ∧
      g'.clock = probeFinish g ∧ g'.registry = probedRegistry g := by
  rw [exec_refreshFrom] at h
  split at h
  · cases h
  · cases h
    -- the two maps agree provider by provider
    have hup : (recordAnswers (fun _ => true) g).up = refreshedMap g := by
      refine UpMap.ext_of_lookup fun q => ?_
      rw [lookup_recordAnswers, lookup_refreshedMap]
      cases g.registry.client? q <;> rfl
    refine ⟨?_, rfl, rfl⟩
    rw [← hup, recordAnswers_eq]

/-- A refresh with no context to cut it short always runs to its end. -/
theorem refreshFrom_none_completes (g : Gateway) :
    ∃ g', (refreshFrom none).exec g = (.ok (.ok ()), g') :=
  ⟨_, by rw [exec_refreshFrom]; rfl⟩

/-- **A refresh cut short.** Stopped at `g'.clock` with `e`, a refresh keeps the marks of the
providers without a client and the verdicts that came in by then, leaves every other provider's
flag as it was, and keeps every other setting of the router, the last refresh among them. -/
theorem refreshFrom_cut {c : Context} {g g' : Gateway} {e : Failure}
    (h : (refreshFrom (some c)).exec g = (.ok (.error e), g')) :
    g'.router = { g.router with up := g'.router.up } ∧
      (∀ q, g'.router.up.lookup q = match g.registry.client? q with
        | none => some false
        | some cl =>
          if arrivedBefore (g.clock + min cl.checkAvailability.1 g.router.probeTimeoutMs)
            g'.clock e then some (cl.verdict g.router.probeTimeoutMs)
          else g.router.up.lookup q) ∧
      g'.registry = probedRegistry g := by
  rw [exec_refreshFrom] at h
  split at h
  · cases h
    refine ⟨by rw [recordAnswers_eq], lookup_recordAnswers _ g, rfl⟩
  · cases h

/-- The router refreshes on its own, and its map is stale, from then on. -/
theorem Router.wantsRefresh_mono {r : Router} {t t' : Nat} (h : t ≤ t')
    (hw : r.wantsRefresh t = true) : r.wantsRefresh t' = true := by
  unfold Router.wantsRefresh at *
  rw [Bool.and_eq_true] at hw ⊢
  exact ⟨hw.1, Router.isStale_mono h hw.2⟩

/-- A refresh cut short leaves the map stale: a router that wanted a refresh still wants one
at every later instant. -/
theorem wantsRefresh_of_cut {c : Context} {g g' : Gateway} {e : Failure}
    (h : (refreshFrom (some c)).exec g = (.ok (.error e), g'))
    (hw : g.router.wantsRefresh g.clock = true) {t : Nat} (ht : g.clock ≤ t) :
    g'.router.wantsRefresh t = true := by
  rw [(refreshFrom_cut h).1]
  exact Router.wantsRefresh_mono ht hw

/-! ## When the router refreshes -/

/-- A refresh probes every scripted client once more. -/
theorem probesOf_probedRegistry (g : Gateway) (q : Provider) :
    (probedRegistry g).probesOf q = (g.registry.probesOf q).map (· + 1) := by
  unfold probedRegistry Registry.probesOf Registry.client?
  rw [@Registry.find?_of_entries g.registry _
    (fun _ r => { r with client := (r.client.probe (downUnregistered g).probeTimeoutMs g.clock).2 })
    (probeAll_entries _ _ _)]
  cases g.registry.find? q with
  | none => rfl
  | some r => simp [Backend.probes?_probe]

theorem refreshFrom_registry (ctx : Option Context) (g : Gateway) :
    Ends (refreshFrom ctx) g (fun _ g' => g'.registry = probedRegistry g) := by
  unfold Ends
  rw [exec_refreshFrom]
  split <;> exact ⟨_, _, rfl, rfl⟩

/-- Whether a step under `ctx` that starts in `g` refreshes: the context still runs, the router
refreshes on its own, and its map is stale. -/
def refreshDue (ctx : Context) (g : Gateway) : Bool :=
  (ctx.check g.clock).isOk && g.router.wantsRefresh g.clock

theorem refreshIfStale_registry (g : Gateway) :
    Ends refreshIfStale g (fun _ g' => g'.registry =
      if g.router.wantsRefresh g.clock then probedRegistry g else g.registry) := by
  unfold refreshIfStale
  refine Ends.get_bind ?_
  split
  · rename_i hw
    obtain ⟨a, g', he, hreg⟩ := refreshFrom_registry none g
    refine ⟨(), g', ?_, hreg⟩
    unfold refresh
    rw [exec_discard, he]
  · rename_i hw
    exact Ends.pure rfl

theorem refreshWithin_registry (ctx : Context) (g : Gateway) :
    Ends (refreshWithin ctx) g (fun _ g' => g'.registry =
      if refreshDue ctx g then probedRegistry g else g.registry) := by
  unfold refreshWithin
  refine Ends.bind (checkNow_ends ctx g) ?_
  rintro r g₁ ⟨rfl, rfl⟩
  rcases hck : ctx.check g.clock with e | ⟨⟩
  · exact Ends.pure (by simp [refreshDue, hck, Except.isOk, Except.toBool])
  · refine Ends.get_bind ?_
    split
    · rename_i hw
      exact (refreshFrom_registry _ g).mono fun _ _ h => by simp [refreshDue, hck, hw, h, Except.isOk, Except.toBool]
    · rename_i hw
      exact Ends.pure (by simp [refreshDue, hck, hw, Except.isOk, Except.toBool])

theorem availableWithin_registry (ctx : Context) (g : Gateway) :
    Ends (availableWithin ctx) g (fun _ g' => g'.registry =
      if refreshDue ctx g then probedRegistry g else g.registry) := by
  unfold availableWithin
  refine Ends.bind (refreshWithin_registry ctx g) fun r g₁ h => ?_
  rcases r with e | ⟨⟩
  · exact Ends.pure h
  · exact Ends.get_bind (Ends.pure h)

theorem route_registry (ctx : Context) (req : Request) (g : Gateway) :
    Ends (route ctx req) g (fun _ g' => g'.registry =
      if refreshDue ctx g then probedRegistry g else g.registry) := by
  unfold route
  refine Ends.bind (checkNow_ends ctx g) ?_
  rintro r g₁ ⟨rfl, rfl⟩
  rcases hck : ctx.check g.clock with e | ⟨⟩
  · exact Ends.pure (by simp [refreshDue, hck, Except.isOk, Except.toBool])
  · refine Ends.bind (availableWithin_registry ctx g) fun r g₂ h => ?_
    rcases r with e | up
    · exact Ends.pure h
    · refine Ends.bind (checkNow_ends ctx g₂) ?_
      rintro r g₃ ⟨rfl, rfl⟩
      rcases ctx.check g₂.clock with e | ⟨⟩
      · exact Ends.pure h
      · -- the choice changes the router only
        exact Ends.of_exec (exec_choice (fun r => r.choose up req) g₂) h

theorem fallback_registry (ctx : Context) (original : Provider) (req : Request) (err : Failure)
    (g : Gateway) :
    Ends (fallback ctx original req err) g (fun _ g' => g'.registry =
      if err.isRetryable && refreshDue ctx g then probedRegistry g else g.registry) := by
  unfold fallback
  split
  · rename_i hnot
    exact Ends.pure (by simp_all)
  · rename_i hretry
    have hr : err.isRetryable = true := by simpa using hretry
    refine Ends.bind (checkNow_ends ctx g) ?_
    rintro r g₁ ⟨rfl, rfl⟩
    rcases hck : ctx.check g.clock with e | ⟨⟩
    · exact Ends.pure (by simp [refreshDue, hck, Except.isOk, Except.toBool])
    · refine Ends.bind (availableWithin_registry ctx g) fun r g₂ h => ?_
      rw [hr, Bool.true_and]
      rcases r with e | up
      · exact Ends.pure h
      · exact Ends.of_exec
          (exec_choice (fun r => r.chooseFallback up original req.provider) g₂) h

/-- A fan-out asked for no provider in particular refreshes, under its shared context, exactly
when a routing step would. -/
theorem fanoutTargets_registry (G : Context) (g : Gateway) :
    Ends (fanoutTargets G []) g (fun _ g' => g'.registry =
      if refreshDue G g then probedRegistry g else g.registry) := by
  refine Ends.of_exec (exec_fanoutTargets G [] g) ?_
  obtain ⟨a, g', he, h⟩ := availableWithin_registry G g
  simp only [targetsKnown, List.isEmpty_nil, if_true, he]
  exact h


/-! ## Refreshing availability -/

/-- **Refreshing availability.** For every gateway, its registry holding one client per
provider at most and its map kept in provider order, as both always are:
* a refresh that runs to its end, under a context or not, leaves exactly `refreshedMap g`, so
  no flag from before survives, and stamps its end as the last refresh; without a context it
  always runs to its end;
* a refresh cut short at `g'.clock` with `e` marks the providers without a client down, records
  the verdicts that came in by then, leaves every other flag and the last refresh as they were,
  so a router that wanted a refresh still wants one at every later instant;
* a refresh probes every scripted client once, and each step that reads the map refreshes
  exactly when one is due: the router refreshes on its own, its map is stale and, under a
  context, the context still runs (for a fallback, the failure is also worth retrying). -/
theorem availability_after_refresh (g : Gateway) :
    (∀ ctx g', (refreshFrom ctx).exec g = (.ok (.ok ()), g') →
      g'.router = { g.router with up := refreshedMap g, lastRefresh := some g'.clock }) ∧
    (∃ g', (refreshFrom none).exec g = (.ok (.ok ()), g')) ∧
    (∀ c e g', (refreshFrom (some c)).exec g = (.ok (.error e), g') →
      g'.router = { g.router with up := g'.router.up } ∧
      (∀ q, g'.router.up.lookup q = match g.registry.client? q with
        | none => some false
        | some cl =>
          if arrivedBefore (g.clock + min cl.checkAvailability.1 g.router.probeTimeoutMs)
            g'.clock e then some (cl.verdict g.router.probeTimeoutMs)
          else g.router.up.lookup q) ∧
      (g.router.wantsRefresh g.clock = true →
        ∀ t, g.clock ≤ t → g'.router.wantsRefresh t = true)) ∧
    (∀ q, (probedRegistry g).probesOf q = (g.registry.probesOf q).map (· + 1)) ∧
    (refreshIfStale.exec g).2.registry =
      (if g.router.wantsRefresh g.clock then probedRegistry g else g.registry) ∧
    (∀ ctx, ((refreshWithin ctx).exec g).2.registry =
      if refreshDue ctx g then probedRegistry g else g.registry) ∧
    (∀ ctx, ((availableWithin ctx).exec g).2.registry =
      if refreshDue ctx g then probedRegistry g else g.registry) ∧
    (∀ ctx req, ((route ctx req).exec g).2.registry =
      if refreshDue ctx g then probedRegistry g else g.registry) ∧
    (∀ ctx original req err, ((fallback ctx original req err).exec g).2.registry =
      if err.isRetryable && refreshDue ctx g then probedRegistry g else g.registry) ∧
    (∀ G, ((fanoutTargets G []).exec g).2.registry =
      if refreshDue G g then probedRegistry g else g.registry) := by
  refine ⟨fun ctx g' h => (refreshFrom_complete h).1, refreshFrom_none_completes g,
    fun c e g' h => ?_, probesOf_probedRegistry g, (refreshIfStale_registry g).exec_snd,
    fun ctx => (refreshWithin_registry ctx g).exec_snd,
    fun ctx => (availableWithin_registry ctx g).exec_snd,
    fun ctx req => (route_registry ctx req g).exec_snd,
    fun ctx original req err => (fallback_registry ctx original req err g).exec_snd,
    fun G => (fanoutTargets_registry G g).exec_snd⟩
  obtain ⟨hrouter, hlookup, -⟩ := refreshFrom_cut h
  exact ⟨hrouter, hlookup, fun hw t ht => wantsRefresh_of_cut h hw ht⟩

/-- A complete refresh of a gateway with one scripted client, whose probe answers at the
timeout itself, and a flag set by hand for a provider without a client: the client counts as
up, and the hand-set flag is replaced by `false`, as for every provider without a client. -/
theorem availability_after_refresh_overrides_manual_flag :
    let b : ScriptedBackend :=
      { provider := .openai, standing := .text "pong", probeDelayMs := some 5000 }
    let g : Gateway :=
      { registry := { entries := [(.openai, { client := .scripted b })] },
        router := { up := { flags := [(.gemini, true)] }, rng := Random.Rng.ofSeed 0 },
        store := .counting {} }
    ((refreshFrom none).exec g).2.router.up.flags =
      [(.openai, true), (.gemini, false), (.mistral, false), (.claude, false),
        (.vertex, false), (.bedrock, false)] := by
  intro b g
  obtain ⟨g', he⟩ := refreshFrom_none_completes g
  have hmap : (refreshedMap g).flags = [(.openai, true), (.gemini, false), (.mistral, false),
      (.claude, false), (.vertex, false), (.bedrock, false)] := by decide
  rw [he, (availability_after_refresh g).1 none g' he]
  exact hmap

end Gateway

end QueryRelay
