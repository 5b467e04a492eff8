import QueryRelay.Proofs.Gateway.Refresh
import QueryRelay.Proofs.Waits

/-!
# The stages of a routing decision

`Proofs.Gateway.Routing` shows what the dispatcher relies on in a routing step: the provider
chosen is up and the context still runs. This file pins the decision itself down, for every
map, affinity table, request and random stream.

## A fresh request

Over `L`, the providers up in the map the step reads, in provider order, the stages are tried
in turn (`Router.Staged`):

1. the provider the request asks for, if it is in `L`;
2. otherwise the provider the affinity table gives the request's task type, if it is in `L`;
3. otherwise, when `L` is not empty, `L[i]` for the index `i` drawn from the random stream,
   the only stage that draws;
4. otherwise the router's `unavailable` fault, which names no provider (`Failure.Unrouted`).

## A replacement

After a retryable failure of `original`, the candidates are `L` without `original`
(`Router.FallbackStaged`): the request's own preference when it is a candidate, else a
uniform draw among the candidates, and the `unavailable` fault exactly when there are none.
The internal failure of a draw that finds nothing is never reached, since a draw among
candidates that are not empty always picks one.

## Before the decision

A routing step checks the context and, when a refresh is due, refreshes the map under it. A
refresh changes the map and the instant of the last refresh only (`Router.Refreshed`), so the
affinity table and the random stream the decision uses are those the step started from. When
the context ends the step first, the failure is the context's own and was due by the instant
the step ends (`Context.DoneBy`, from `Proofs.Waits`), and nothing is drawn.
-/

namespace QueryRelay

/-! ## What a router without a provider answers -/

/-- The router's fault when it has no provider to give: `unavailable`, naming no provider,
with code 503, and worth a retry. -/
def Failure.Unrouted (e : Failure) : Prop :=
  ∃ f, e = .provider f ∧ f.kind = .unavailable ∧ f.provider = none ∧ f.code = 503 ∧
    f.retryable = true

namespace Router

theorem noProvider_unrouted : noProvider.Unrouted := ⟨_, rfl, rfl, rfl, rfl, rfl⟩

theorem noFallback_unrouted (original : Provider) : (noFallback original).Unrouted :=
  ⟨_, rfl, rfl, rfl, rfl, rfl⟩

/-! ## The stages of a fresh request -/

/-- Neither the provider a request asks for nor its task type's provider is in `L`. -/
def Unsteered (aff : Affinity) (L : List Provider) (req : Request) : Prop :=
  (∀ p, req.provider = some p → p ∉ L) ∧
    ∀ t q, req.taskType = some t → aff.lookup t = some q → q ∉ L

/-- How a fresh request is decided over the providers up `L`, from the affinity table `aff` and
the random stream `rng`, which the decision leaves as `rng'`: the stages in order, and only the
random one draws. -/
structure Staged (aff : Affinity) (L : List Provider) (req : Request) (rng : Random.Rng)
    (r : Except Failure RouteDecision) (rng' : Random.Rng) : Prop where
  preference : ∀ p, req.provider = some p → p ∈ L →
    r = .ok ⟨p, .userPreference⟩ ∧ rng' = rng
  affinity : (∀ p, req.provider = some p → p ∉ L) →
    ∀ t q, req.taskType = some t → aff.lookup t = some q → q ∈ L →
      r = .ok ⟨q, .taskAffinity⟩ ∧ rng' = rng
  random : Unsteered aff L req → L ≠ [] →
    ∃ i, ∃ hi : i < L.length, rng.below L.length = (i, rng') ∧ r = .ok ⟨L[i], .random⟩
  unrouted : Unsteered aff L req → L = [] → (∃ e, r = .error e ∧ e.Unrouted) ∧ rng' = rng

/-- **A staged decision names a provider up.** -/
theorem Staged.mem {aff : Affinity} {L : List Provider} {req : Request} {rng rng' : Random.Rng}
    {r : Except Failure RouteDecision} (h : Staged aff L req rng r rng') {d : RouteDecision}
    (hd : r = .ok d) : d.provider ∈ L := by
  by_cases hp : ∃ p, req.provider = some p ∧ p ∈ L
  · obtain ⟨p, hreq, hpL⟩ := hp
    obtain ⟨hr, -⟩ := h.preference p hreq hpL
    rw [hr] at hd
    cases hd
    exact hpL
  have hp' : ∀ p, req.provider = some p → p ∉ L := fun p hreq hpL => hp ⟨p, hreq, hpL⟩
  by_cases ht : ∃ t q, req.taskType = some t ∧ aff.lookup t = some q ∧ q ∈ L
  · obtain ⟨t, q, hreq, hq, hqL⟩ := ht
    obtain ⟨hr, -⟩ := h.affinity hp' t q hreq hq hqL
    rw [hr] at hd
    cases hd
    exact hqL
  have hun : Unsteered aff L req :=
    ⟨hp', fun t q hreq hq hqL => ht ⟨t, q, hreq, hq, hqL⟩⟩
  by_cases hL : L = []
  · obtain ⟨⟨e, hr, -⟩, -⟩ := h.unrouted hun hL
    rw [hr] at hd
    cases hd
  · obtain ⟨i, hi, -, hr⟩ := h.random hun hL
    rw [hr] at hd
    cases hd
    exact List.getElem_mem hi

theorem choose_of_preferred (r : Router) {L : List Provider} {req : Request} {p : Provider}
    (hreq : req.provider = some p) (hp : p ∈ L) :
    r.choose L req = (.ok ⟨p, .userPreference⟩, r) := by
  have hc : L.contains p = true := List.contains_iff_mem.mpr hp
  unfold choose
  simp only [hreq, hc, if_true]

theorem choose_of_unpreferred (r : Router) {L : List Provider} {req : Request}
    (hreq : ∀ p, req.provider = some p → p ∉ L) : r.choose L req = r.chooseByTask L req := by
  unfold choose
  cases hp : req.provider with
  | none => rfl
  | some p =>
    have hc : L.contains p = false := by
      simpa [List.contains_iff_mem] using hreq p hp
    simp only [hc, Bool.false_eq_true, if_false]

theorem chooseByTask_of_affine (r : Router) {L : List Provider} {req : Request} {t : TaskType}
    {q : Provider} (hreq : req.taskType = some t) (hq : r.affinity.lookup t = some q)
    (hqL : q ∈ L) : r.chooseByTask L req = (.ok ⟨q, .taskAffinity⟩, r) := by
  have hb : req.taskType.bind r.affinity.lookup = some q := by rw [hreq]; exact hq
  have hc : L.contains q = true := List.contains_iff_mem.mpr hqL
  unfold chooseByTask
  simp only [hb, hc, if_true]

theorem chooseByTask_of_unaffine (r : Router) {L : List Provider} {req : Request}
    (hreq : ∀ t q, req.taskType = some t → r.affinity.lookup t = some q → q ∉ L) :
    r.chooseByTask L req = r.chooseAtRandom L := by
  unfold chooseByTask
  cases hb : req.taskType.bind r.affinity.lookup with
  | none => rfl
  | some q =>
    obtain ⟨t, ht, hq⟩ := Option.bind_eq_some_iff.mp hb
    have hc : L.contains q = false := by
      simpa [List.contains_iff_mem] using hreq t q ht hq
    simp only [hc, Bool.false_eq_true, if_false]

/-- A draw from a list that is not empty picks the element at the drawn index. -/
theorem pick_of_ne_nil {α : Type} (rng : Random.Rng) {xs : List α} (hxs : xs ≠ []) :
    ∃ i, ∃ hi : i < xs.length, rng.below xs.length = (i, (rng.pick xs).2) ∧
      (rng.pick xs).1 = some xs[i] := by
  have hi : (rng.below xs.length).1 < xs.length :=
    Random.Rng.belowFuel_lt (List.length_pos_iff.mpr hxs) rng 4096
  refine ⟨_, hi, ?_, ?_⟩
  · cases xs with
    | nil => exact absurd rfl hxs
    | cons a l => rfl
  · cases xs with
    | nil => exact absurd rfl hxs
    | cons a l => exact List.getElem?_eq_getElem hi

theorem chooseAtRandom_nil (r : Router) :
    r.chooseAtRandom [] = (.error noProvider, r) := rfl

theorem chooseAtRandom_of_ne_nil (r : Router) {L : List Provider} (hL : L ≠ []) :
    ∃ i, ∃ hi : i < L.length, r.rng.below L.length = (i, (r.chooseAtRandom L).2.rng) ∧
      (r.chooseAtRandom L).1 = .ok ⟨L[i], .random⟩ := by
  obtain ⟨i, hi, hb, hp⟩ := pick_of_ne_nil r.rng hL
  refine ⟨i, hi, ?_, ?_⟩
  · rw [hb]
    unfold chooseAtRandom
    cases L with
    | nil => exact absurd rfl hL
    | cons a l =>
      dsimp only
      rw [hp]
  · unfold chooseAtRandom
    cases L with
    | nil => exact absurd rfl hL
    | cons a l =>
      dsimp only
      rw [hp]

/-- **Choosing for a fresh request goes stage by stage.** -/
theorem choose_staged (r : Router) (L : List Provider) (req : Request) :
    Staged r.affinity L req r.rng (r.choose L req).1 (r.choose L req).2.rng where
  preference p hreq hp := by
    rw [choose_of_preferred r hreq hp]
    exact ⟨rfl, rfl⟩
  affinity hun t q hreq hq hqL := by
    rw [choose_of_unpreferred r hun, chooseByTask_of_affine r hreq hq hqL]
    exact ⟨rfl, rfl⟩
  random hun hL := by
    rw [choose_of_unpreferred r hun.1, chooseByTask_of_unaffine r hun.2]
    exact chooseAtRandom_of_ne_nil r hL
  unrouted hun hL := by
    subst hL
    rw [choose_of_unpreferred r hun.1, chooseByTask_of_unaffine r hun.2, chooseAtRandom_nil]
    exact ⟨⟨_, rfl, noProvider_unrouted⟩, rfl⟩

/-! ## The stages of a replacement -/

/-- How a replacement for `original` is chosen over the providers up `L`, given the request's
own preference and the random stream `rng`, which the choice leaves as `rng'`. The candidates
are `L` without `original`. -/
structure FallbackStaged (L : List Provider) (original : Provider) (preferred : Option Provider)
    (rng : Random.Rng) (r : Except Failure RouteDecision) (rng' : Random.Rng) : Prop where
  preference : ∀ p, preferred = some p → p ∈ L.filter (· ≠ original) →
    r = .ok ⟨p, .fallback⟩ ∧ rng' = rng
  random : (∀ p, preferred = some p → p ∉ L.filter (· ≠ original)) →
    L.filter (· ≠ original) ≠ [] →
    ∃ i, ∃ hi : i < (L.filter (· ≠ original)).length,
      rng.below (L.filter (· ≠ original)).length = (i, rng') ∧
      r = .ok ⟨(L.filter (· ≠ original))[i], .fallback⟩
  unrouted : L.filter (· ≠ original) = [] → (∃ e, r = .error e ∧ e.Unrouted) ∧ rng' = rng

/-- **A replacement is a candidate.** It is up and it is not the provider that failed; and no
replacement is found only when there is no candidate. -/
theorem FallbackStaged.mem {L : List Provider} {original : Provider}
    {preferred : Option Provider} {rng rng' : Random.Rng} {r : Except Failure RouteDecision}
    (h : FallbackStaged L original preferred rng r rng') :
    (∀ d, r = .ok d → d.provider ∈ L ∧ d.provider ≠ original) ∧
      ∀ e, r = .error e → e.Unrouted ∧ L.filter (· ≠ original) = [] := by
  have hcand : ∀ q, q ∈ L.filter (· ≠ original) → q ∈ L ∧ q ≠ original := by
    intro q hq
    simpa using hq
  by_cases hp : ∃ p, preferred = some p ∧ p ∈ L.filter (· ≠ original)
  · obtain ⟨p, hpref, hpC⟩ := hp
    obtain ⟨hr, -⟩ := h.preference p hpref hpC
    subst hr
    refine ⟨fun d hd => ?_, fun e he => ?_⟩
    · cases hd
      exact hcand p hpC
    · cases he
  have hp' : ∀ p, preferred = some p → p ∉ L.filter (· ≠ original) :=
    fun p hpref hpC => hp ⟨p, hpref, hpC⟩
  by_cases hC : L.filter (· ≠ original) = []
  · obtain ⟨⟨e, hr, hun⟩, -⟩ := h.unrouted hC
    subst hr
    refine ⟨fun d hd => ?_, fun e' he => ?_⟩
    · cases hd
    · cases he
      exact ⟨hun, hC⟩
  · obtain ⟨i, hi, -, hr⟩ := h.random hp' hC
    subst hr
    refine ⟨fun d hd => ?_, fun e he => ?_⟩
    · cases hd
      exact hcand _ (List.getElem_mem hi)
    · cases he

theorem chooseFallback_of_empty (r : Router) {L : List Provider} {original : Provider}
    (preferred : Option Provider) (hC : L.filter (· ≠ original) = []) :
    r.chooseFallback L original preferred = (.error (noFallback original), r) := by
  unfold chooseFallback
  dsimp only
  rw [if_pos (List.isEmpty_iff.mpr hC)]

theorem chooseFallback_of_preferred (r : Router) {L : List Provider} {original p : Provider}
    (hpC : p ∈ L.filter (· ≠ original)) :
    r.chooseFallback L original (some p) = (.ok ⟨p, .fallback⟩, r) := by
  have hne : L.filter (· ≠ original) ≠ [] := List.ne_nil_of_mem hpC
  have hpo : p ≠ original := by simpa using (List.mem_filter.mp hpC).2
  have htake : (decide (p ≠ original) && (L.filter (· ≠ original)).contains p) = true := by
    simp only [Bool.and_eq_true, decide_eq_true_eq]
    exact ⟨hpo, List.contains_iff_mem.mpr hpC⟩
  unfold chooseFallback
  dsimp only
  rw [if_neg (fun h => hne (List.isEmpty_iff.mp h)), if_pos htake]

theorem chooseFallback_of_unpreferred (r : Router) {L : List Provider} {original : Provider}
    {preferred : Option Provider} (hpref : ∀ p, preferred = some p → p ∉ L.filter (· ≠ original))
    (hC : L.filter (· ≠ original) ≠ []) :
    ∃ i, ∃ hi : i < (L.filter (· ≠ original)).length,
      r.rng.below (L.filter (· ≠ original)).length =
        (i, (r.chooseFallback L original preferred).2.rng) ∧
      (r.chooseFallback L original preferred).1 = .ok ⟨(L.filter (· ≠ original))[i], .fallback⟩ := by
  obtain ⟨i, hi, hb, hp⟩ := pick_of_ne_nil r.rng hC
  -- the preference, if any, is not taken, so the choice is the draw
  have hrandom : r.chooseFallback L original preferred =
      (.ok ⟨(L.filter (· ≠ original))[i], .fallback⟩,
        { r with rng := (r.rng.pick (L.filter (· ≠ original))).2 }) := by
    unfold chooseFallback
    dsimp only
    rw [if_neg (fun h => hC (List.isEmpty_iff.mp h))]
    cases preferred with
    | none =>
      dsimp only
      rw [hp]
    | some p =>
      have hno : (decide (p ≠ original) && (L.filter (· ≠ original)).contains p) = false := by
        have hc : (L.filter (· ≠ original)).contains p = false := by
          simpa [List.contains_iff_mem] using hpref p rfl
        rw [hc, Bool.and_false]
      dsimp only
      rw [hno, hp]
      rfl
  rw [hrandom]
  exact ⟨i, hi, hb, rfl⟩

/-- **Choosing a replacement goes stage by stage.** -/
theorem chooseFallback_staged (r : Router) (L : List Provider) (original : Provider)
    (preferred : Option Provider) :
    FallbackStaged L original preferred r.rng (r.chooseFallback L original preferred).1
      (r.chooseFallback L original preferred).2.rng where
  preference p hpref hpC := by
    subst hpref
    rw [chooseFallback_of_preferred r hpC]
    exact ⟨rfl, rfl⟩
  random hpref hC := chooseFallback_of_unpreferred r hpref hC
  unrouted hC := by
    rw [chooseFallback_of_empty r preferred hC]
    exact ⟨⟨_, rfl, noFallback_unrouted original⟩, rfl⟩

/-! ## What a refresh leaves of the router -/

/-- `r'` is `r` with at most its map and the instant of its last refresh changed. -/
def Refreshed (r r' : Router) : Prop :=
  r' = { r with up := r'.up, lastRefresh := r'.lastRefresh }

theorem Refreshed.refl (r : Router) : Refreshed r r := rfl

theorem Refreshed.rng {r r' : Router} (h : Refreshed r r') : r'.rng = r.rng := by
  unfold Refreshed at h
  rw [h]

theorem Refreshed.affinity {r r' : Router} (h : Refreshed r r') : r'.affinity = r.affinity := by
  unfold Refreshed at h
  rw [h]

end Router

/-! ## The routing steps, stage by stage -/

namespace GatewayM.Ends

variable {α : Type} {m : GatewayM α} {g : Gateway} {P Q : α → Gateway → Prop}

/-- Two things known of how one run ends hold together. -/
theorem and (hP : Ends m g P) (hQ : Ends m g Q) : Ends m g (fun a g' => P a g' ∧ Q a g') := by
  obtain ⟨a, g', he, hp⟩ := hP
  obtain ⟨b, hb, hq⟩ := hQ.elim he
  cases hb
  exact ⟨a, g', he, hp, hq⟩

end GatewayM.Ends

namespace Gateway

open GatewayM

theorem recordAnswers_refreshed (keep : Nat → Bool) (g : Gateway) :
    Router.Refreshed g.router (recordAnswers keep g) := by
  unfold Router.Refreshed
  rw [recordAnswers_eq]

/-- **A refresh under a context.** It changes only the map and the last refresh, and when the
context cuts it short, its failure was due by the instant it stopped. -/
theorem refreshFrom_done (c : Context) (g : Gateway) :
    Ends (refreshFrom (some c)) g (fun r g' => Router.Refreshed g.router g'.router ∧
      ∀ e, r = .error e → c.DoneBy g'.clock e) := by
  unfold Ends
  rw [exec_refreshFrom]
  split
  · rename_i t e hstop
    refine ⟨_, _, rfl, recordAnswers_refreshed (fun a => arrivedBefore a t e) g, fun e' he => ?_⟩
    cases he
    exact Context.doneBy_of_waitFrom hstop
  · refine ⟨_, _, rfl, ?_, nofun⟩
    have h := recordAnswers_refreshed (fun _ => true) g
    unfold Router.Refreshed at h ⊢
    exact congrArg (fun r : Router => { r with lastRefresh := some (probeFinish g) }) h

theorem refreshWithin_done (ctx : Context) (g : Gateway) :
    Ends (refreshWithin ctx) g (fun r g' => Router.Refreshed g.router g'.router ∧
      ∀ e, r = .error e → ctx.DoneBy g'.clock e) := by
  unfold refreshWithin
  refine Ends.bind (checkNow_ends ctx g) ?_
  rintro r g₁ ⟨rfl, rfl⟩
  rcases hck : ctx.check g.clock with e | ⟨⟩
  · refine Ends.pure ⟨Router.Refreshed.refl _, fun e' he => ?_⟩
    cases he
    exact Context.doneBy_of_check hck
  · refine Ends.get_bind ?_
    split
    · exact refreshFrom_done ctx g
    · exact Ends.pure ⟨Router.Refreshed.refl _, nofun⟩

/-- What a routing step has before it decides: the providers up in the map it leaves, read
while the context still runs, from a router that only a refresh changed; or the context's own
failure, due by the instant the step ends. -/
theorem availableWithin_done (ctx : Context) (g : Gateway) :
    Ends (availableWithin ctx) g (fun r g' => Router.Refreshed g.router g'.router ∧
      (∀ up, r = .ok up → up = g'.router.available ∧ ctx.check g'.clock = .ok ()) ∧
      ∀ e, r = .error e → ctx.DoneBy g'.clock e) := by
  have hdone : Ends (availableWithin ctx) g (fun r g' => Router.Refreshed g.router g'.router ∧
      ∀ e, r = .error e → ctx.DoneBy g'.clock e) := by
    unfold availableWithin
    refine Ends.bind (refreshWithin_done ctx g) fun r g₁ ⟨hfresh, hdone⟩ => ?_
    rcases r with e | ⟨⟩
    · refine Ends.pure ⟨hfresh, fun e' he => ?_⟩
      cases he
      exact hdone e rfl
    · exact Ends.get_bind (Ends.pure ⟨hfresh, nofun⟩)
  refine (hdone.and (availableWithin_ends ctx g)).mono ?_
  rintro r g' ⟨⟨hfresh, hdone⟩, hok, -⟩
  exact ⟨hfresh, hok, hdone⟩

/-- **Routing a fresh request, stage by stage.** For every map, affinity table, request and
random stream, routing never stops, and either the context ends it, with its own failure due by
the instant routing ends and nothing drawn, or, with the context still running, the decision
goes stage by stage over the providers up in the map it read (the map it leaves), from the
affinity table and the random stream it started with. It never names a provider that is not
up in that map. -/
theorem route_by_stages (ctx : Context) (req : Request) (g : Gateway) :
    Ends (route ctx req) g (fun r g' =>
      ((∃ e, r = .error e ∧ ctx.DoneBy g'.clock e ∧ g'.router.rng = g.router.rng) ∨
        (ctx.check g'.clock = .ok () ∧
          Router.Staged g.router.affinity g'.router.available req g.router.rng r
            g'.router.rng)) ∧
      ∀ d, r = .ok d → d.provider ∈ g'.router.available) := by
  unfold route
  refine Ends.bind (checkNow_ends ctx g) ?_
  rintro r g₁ ⟨rfl, rfl⟩
  rcases hck : ctx.check g.clock with e | ⟨⟩
  · exact Ends.pure ⟨.inl ⟨e, rfl, Context.doneBy_of_check hck, rfl⟩, nofun⟩
  · refine Ends.bind (availableWithin_done ctx g) fun r g₂ ⟨hfresh, hok, herr⟩ => ?_
    rcases r with e | up
    · exact Ends.pure ⟨.inl ⟨e, rfl, herr e rfl, hfresh.rng⟩, nofun⟩
    · obtain ⟨rfl, -⟩ := hok up rfl
      refine Ends.bind (checkNow_ends ctx g₂) ?_
      rintro r g₃ ⟨rfl, rfl⟩
      rcases hck₂ : ctx.check g₂.clock with e | ⟨⟩
      · exact Ends.pure ⟨.inl ⟨e, rfl, Context.doneBy_of_check hck₂, hfresh.rng⟩, nofun⟩
      · have hstaged := Router.choose_staged g₂.router g₂.router.available req
        rw [hfresh.affinity, hfresh.rng] at hstaged
        refine Ends.of_exec (exec_choice (fun r => r.choose g₂.router.available req) g₂) ?_
        show ((_ ∨ _ ∧ Router.Staged g.router.affinity
          (g₂.router.choose g₂.router.available req).2.available req g.router.rng _ _) ∧ _)
        rw [Router.available_choose]
        exact ⟨.inr ⟨hck₂, hstaged⟩, fun d hd => hstaged.mem hd⟩

/-- **Choosing a replacement, stage by stage.** A failure not worth retrying is handed back as
it is, and nothing else happens: the context is not consulted, and the map and the random
stream stay as they were. For a retryable failure the step never stops, and either the context
ends it, with its own failure due by the instant the step ends and nothing drawn, or, with the
context still running, the replacement goes stage by stage over the providers up in the map it
read, other than `original`: the request's own preference when it is one of them, a draw among
them otherwise, and the `unavailable` fault exactly when there are none. A replacement is
always up and never `original`, and the choice never fails with an internal failure. -/
theorem fallback_by_stages (ctx : Context) (original : Provider) (req : Request)
    (err : Failure) (g : Gateway) :
    (err.isRetryable = false → (fallback ctx original req err).exec g = (.ok (.error err), g)) ∧
    (err.isRetryable = true → Ends (fallback ctx original req err) g (fun r g' =>
      ((∃ e, r = .error e ∧ ctx.DoneBy g'.clock e ∧ g'.router.rng = g.router.rng) ∨
        (ctx.check g'.clock = .ok () ∧
          Router.FallbackStaged g'.router.available original req.provider g.router.rng r
            g'.router.rng)) ∧
      (∀ d, r = .ok d → d.provider ∈ g'.router.available ∧ d.provider ≠ original) ∧
      ∀ m, r ≠ .error (.internal m))) := by
  refine ⟨fun hnot => ?_, fun hretry => ?_⟩
  · unfold fallback
    rw [hnot]
    rfl
  · have hgo : (!err.isRetryable) = false := by rw [hretry]; rfl
    unfold fallback
    rw [hgo]
    refine Ends.bind (checkNow_ends ctx g) ?_
    rintro r g₁ ⟨rfl, rfl⟩
    rcases hck : ctx.check g.clock with e | ⟨⟩
    · refine Ends.pure ⟨.inl ⟨e, rfl, Context.doneBy_of_check hck, rfl⟩, nofun, ?_⟩
      intro m he
      cases he
      cases Context.isCancellation_of_check hck
    · refine Ends.bind (availableWithin_done ctx g) fun r g₂ ⟨hfresh, hok, herr⟩ => ?_
      rcases r with e | up
      · refine Ends.pure ⟨.inl ⟨e, rfl, herr e rfl, hfresh.rng⟩, nofun, ?_⟩
        intro m he
        cases he
        rcases herr _ rfl with ⟨h, -⟩ | ⟨h, -⟩ <;> cases h
      · obtain ⟨rfl, hrun⟩ := hok up rfl
        have hstaged := Router.chooseFallback_staged g₂.router g₂.router.available original
          req.provider
        rw [hfresh.rng] at hstaged
        refine Ends.of_exec
          (exec_choice (fun r => r.chooseFallback g₂.router.available original req.provider) g₂) ?_
        show ((_ ∨ _ ∧ Router.FallbackStaged
          (g₂.router.chooseFallback g₂.router.available original req.provider).2.available
            original req.provider g.router.rng _ _) ∧ _)
        rw [Router.available_chooseFallback]
        obtain ⟨hmem, hunrouted⟩ := hstaged.mem
        refine ⟨.inr ⟨hrun, hstaged⟩, hmem, fun m he => ?_⟩
        obtain ⟨⟨f, hf, -⟩, -⟩ := hunrouted _ he
        cases hf

end Gateway

end QueryRelay
