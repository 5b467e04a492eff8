import Mathlib
import QueryRelay.Proofs.Gateway.Calls
import QueryRelay.Gateway.Fanout

/-!
# What a fan-out answers

A fan-out sends one query to several providers under a shared deadline `D`, the earlier of the
caller's deadline and the fan-out timeout from its start. This file shows, for every request,
every list of providers asked for (repeated and unregistered ones included), every timeout,
every context and every client, what the fan-out returns: one outcome per target, in provider
order, each given by a rule that does not mention the gateway's code.

## The rule of one unit

A client's part is a `Reply` at an instant (`Backend.reply`): a scripted client answers, fails
or panics once its delay has passed, or never acts; a hosted one answers or fails as the run of
its prompts under the shared context ends, or never acts. A unit started at `s` then ends as
the race between that reply at `w`, the shared deadline and the caller's cancellation decides
(`unitOutcome`):

* cancelled, if the cancellation is due by the start, or by both the deadline and the reply;
* otherwise timed out, if the deadline comes by the reply (or the client never acts);
* otherwise as the reply says: a success with the reply's latency, the request's id and the
  plain sum of the token counts; the failure's outcome; or the error "unit panicked".

At one instant a unit sees the cancellation before the deadline and the deadline before the
work (`Context.taskWaitFrom`); `endOutcome_call` shows that the call, run under the shared
context, ends by this rule.

## Why the theorem has a hypothesis

A success's token total is a checked 64-bit sum, and it is formed outside the unit: a sum that
does not fit stops the whole fan-out, not only that provider's part. So `handleFanout_outcomes`
asks that every success the rule gives fit; under that condition the fan-out returns, and
returns exactly the outcomes of the rule.
-/

namespace QueryRelay

/-- What a client does with a call, the context left aside. -/
inductive Reply where
  /-- It answers with this completion. -/
  | answered (comp : Completion)
  /-- It fails with this failure. -/
  | failed (e : Failure)
  /-- It panics. -/
  | panicked

namespace Reply

/-- The response a unit makes of a completion: not cached, no retries, the request's id, and
the plain sum of the token counts. -/
def response (req : Request) (p : Provider) (comp : Completion) (latencyMs : Nat) : Response :=
  { text := comp.text, provider := p, requestId := req.requestId, latencyMs := latencyMs,
    cached := false, inputTokens := comp.inputTokens, outputTokens := comp.outputTokens,
    totalTokens := comp.inputTokens + comp.outputTokens, retries := 0 }

/-- The outcome of a reply that came in time, after `latencyMs`. -/
def outcome (req : Request) (p : Provider) (latencyMs : Nat) : Reply → Outcome
  | .answered comp => .success (response req p comp latencyMs)
  | .failed e => Outcome.ofFailure e
  | .panicked => .error "unit panicked" none none

end Reply

namespace ScriptedBackend

theorem take_delayMs (b : ScriptedBackend) : b.take.2.delayMs = b.delayMs := by
  unfold take
  split <;> rfl

end ScriptedBackend

namespace Backend

/-- The reply of a client to a call of `req` started at `s` under the shared context `G`, and
its instant; `none` when the client never acts. -/
def reply (c : Backend) (G : Context) (req : Request) (s : Nat) : Option (Nat × Reply) :=
  match c with
  | .hosted h e =>
    (h.promptRun e G s).finish.map fun w => (w, match (h.promptRun e G s).result with
      | .ok a => .answered (Completion.ofAnswer req.query a)
      | .error f => .failed f)
  | .scripted b =>
    match b.take.1 with
    | .text a => some (s + b.delayMs.getD 0, .answered (Completion.ofAnswer req.query a))
    | .fail f => some (s + b.delayMs.getD 0, .failed (.provider f))
    | .crash => some (s + b.delayMs.getD 0, .panicked)
    | .hang => none

theorem le_of_reply {c : Backend} {G : Context} {req : Request} {s w : Nat} {r : Reply}
    (h : c.reply G req s = some (w, r)) : s ≤ w := by
  unfold reply at h
  split at h
  · rename_i hd e
    obtain ⟨w', hw', hwr⟩ := Option.map_eq_some_iff.1 h
    cases hwr
    exact hd.promptRun_le_finish e G s hw'
  · split at h <;> cases h <;> exact Nat.le_add_right _ _

end Backend

namespace Registry

theorem client?_modify_of_ne (reg : Registry) {p q : Provider} (f : Registration → Registration)
    (h : q ≠ p) : (reg.modify p f).client? q = reg.client? q := by
  unfold client?
  rw [find?_modify]
  simp only [h, if_false, Option.map_id']

end Registry

namespace Provider

/-- The targets of a fan-out are in strictly increasing provider order. -/
theorem sortDedup_pairwise (ps : List Provider) :
    (sortDedup ps).Pairwise (fun a b => a.rank < b.rank) :=
  List.Pairwise.sublist List.filter_sublist (by decide)

end Provider

namespace Context

theorem taskSeesCancel_mono {c : Context} {t t' : Nat} (h : t ≤ t')
    (ht : c.taskSeesCancel t = true) : c.taskSeesCancel t' = true := by
  unfold taskSeesCancel at ht ⊢
  split at ht
  · cases ht
  · rfl
  · simp only [decide_eq_true_eq] at ht ⊢
    omega

/-- A unit's check at `s` passes exactly when it does not see the cancellation at `s` and the
deadline lies after `s`. -/
theorem taskCheck_eq_ok {c : Context} {D s : Nat} (hD : c.deadline = some D) :
    c.taskCheck s = .ok () ↔ c.taskSeesCancel s = false ∧ s < D := by
  unfold taskCheck expiredAt
  simp only [hD]
  by_cases hc : c.taskSeesCancel s = true
  · simp [hc]
  · rw [if_neg hc]
    have hf : c.taskSeesCancel s = false := Bool.eq_false_iff.mpr hc
    by_cases hds : D ≤ s
    · rw [if_pos (decide_eq_true hds)]
      exact ⟨(fun h => by cases h), fun ⟨_, hsD⟩ => absurd hds (Nat.not_le_of_lt hsD)⟩
    · rw [if_neg fun h => hds (of_decide_eq_true h)]
      exact ⟨fun _ => ⟨hf, Nat.lt_of_not_le hds⟩, fun _ => rfl⟩

/-- How a unit that passed its check at `s` waits for work done at `w`: the cancellation ends
it if it is due by both the deadline and the work, else the deadline if it comes by the work,
else the work completes. -/
theorem taskWaitFrom_some {G : Context} {D s w : Nat} (hD : G.deadline = some D)
    (hs : G.taskSeesCancel s = false) (hsw : s ≤ w) (hsD : s < D) :
    (G.taskSeesCancel (min D w) = true ∧ ∃ t, G.taskWaitFrom s (some w) = .stopped t .cancelled) ∨
    (G.taskSeesCancel (min D w) = false ∧ D ≤ w ∧
      G.taskWaitFrom s (some w) = .stopped D .deadlineExceeded) ∨
    (G.taskSeesCancel (min D w) = false ∧ w < D ∧ G.taskWaitFrom s (some w) = .done w) := by
  unfold taskWaitFrom
  by_cases hws : w = s
  · -- work due at the start completes before anything else is looked at
    subst hws
    right; right
    refine ⟨?_, hsD, by simp⟩
    rw [Nat.min_eq_right (Nat.le_of_lt hsD)]
    exact hs
  · have hne : some w ≠ some s := fun h => hws (Option.some.inj h)
    rw [if_neg hne]
    unfold taskSeesCancel at hs ⊢
    rcases hc : G.cancel with _ | _ | tc
    · by_cases hDw : D ≤ w
      · exact Or.inr (Or.inl ⟨rfl, hDw, by simp only [hD, deadlineOrWork, hDw, ↓reduceIte]⟩)
      · exact Or.inr (Or.inr ⟨rfl, Nat.lt_of_not_le hDw,
          by simp only [hD, deadlineOrWork, hDw, ↓reduceIte]⟩)
    · simp [hc] at hs
    · -- the cancellation ends the wait when it is due by both the work and the deadline
      have hmin : tc ≤ min D w ↔ tc ≤ w ∧ tc ≤ D := Nat.le_min.trans And.comm
      simp only [hD, notAfter, decide_eq_true_eq, Bool.and_eq_true]
      by_cases hcan : tc ≤ w ∧ tc ≤ D
      · exact Or.inl ⟨hmin.2 hcan, tc, if_pos hcan⟩
      · have hoff : decide (tc ≤ min D w) = false := decide_eq_false fun h => hcan (hmin.1 h)
        rw [if_neg hcan]
        by_cases hDw : D ≤ w
        · exact Or.inr (Or.inl ⟨hoff, hDw, by simp only [deadlineOrWork, hDw, ↓reduceIte]⟩)
        · exact Or.inr (Or.inr ⟨hoff, Nat.lt_of_not_le hDw,
            by simp only [deadlineOrWork, hDw, ↓reduceIte]⟩)

/-- How a unit that passed its check at `s` waits for work that never completes. -/
theorem taskWaitFrom_none {G : Context} {D s : Nat} (hD : G.deadline = some D)
    (hs : G.taskSeesCancel s = false) :
    (G.taskSeesCancel D = true ∧ ∃ t, G.taskWaitFrom s none = .stopped t .cancelled) ∨
    (G.taskSeesCancel D = false ∧ G.taskWaitFrom s none = .stopped D .deadlineExceeded) := by
  unfold taskWaitFrom
  unfold taskSeesCancel at hs ⊢
  rcases hc : G.cancel with _ | _ | tc
  · simp [hD, deadlineOrWork]
  · simp [hc] at hs
  · by_cases hcan : tc ≤ D
    · simp [hD, notAfter, hcan]
    · simp [hD, notAfter, hcan, deadlineOrWork]

end Context

namespace Gateway

open GatewayM

/-! ## The rule of one unit -/

/-- The shared deadline of a fan-out started at `started`: the earlier of the caller's and
`timeout` after the start. -/
def sharedDeadline (ctx : Context) (started timeout : Nat) : Nat :=
  match ctx.deadline with
  | some d => min d (started + timeout)
  | none => started + timeout

theorem narrowed_deadline (ctx : Context) (started timeout : Nat) :
    (ctx.narrowed started timeout).deadline = some (sharedDeadline ctx started timeout) := by
  unfold Context.narrowed sharedDeadline
  rcases ctx.deadline with _ | d
  · rfl
  · simp only [Nat.min_def, Option.some.injEq]
    split <;> split <;> omega

/-- The outcome of a unit started at `s` under the shared context `G`, whose deadline is `D`,
for the client's reply `a`. -/
def unitOutcome (G : Context) (D : Nat) (req : Request) (p : Provider) (s : Nat) :
    Option (Nat × Reply) → Outcome
  | none => if G.taskSeesCancel s || G.taskSeesCancel D then .cancelled else .timeout
  | some (w, r) =>
    if G.taskSeesCancel s || G.taskSeesCancel (min D w) then .cancelled
    else if D ≤ w then .timeout
    else r.outcome req p (w - s)

/-- A unit succeeds exactly when its client answered before the shared deadline and the
cancellation was due neither by the start nor by the answer. -/
theorem unitOutcome_eq_success {G : Context} {D : Nat} {req : Request} {p : Provider} {s : Nat}
    {a : Option (Nat × Reply)} {r : Response} :
    unitOutcome G D req p s a = .success r ↔
      ∃ w comp, a = some (w, .answered comp) ∧ G.taskSeesCancel s = false ∧
        G.taskSeesCancel w = false ∧ w < D ∧ r = Reply.response req p comp (w - s) := by
  constructor
  · intro h
    rcases a with _ | ⟨w, reply⟩
    · simp only [unitOutcome] at h
      split at h <;> cases h
    · simp only [unitOutcome] at h
      split at h
      · cases h
      · rename_i hcan
        split at h
        · cases h
        · rename_i hwD
          have hmin : min D w = w := Nat.min_eq_right (Nat.le_of_lt (Nat.lt_of_not_le hwD))
          simp only [hmin, Bool.or_eq_true, not_or, Bool.not_eq_true] at hcan
          cases reply with
          | answered comp =>
            cases h
            exact ⟨w, comp, rfl, hcan.1, hcan.2, Nat.lt_of_not_le hwD, rfl⟩
          | failed e =>
            simp only [Reply.outcome, Outcome.ofFailure] at h
            split at h <;> cases h
          | panicked => cases h
  · rintro ⟨w, comp, rfl, hs, hw, hwD, rfl⟩
    have hmin : min D w = w := Nat.min_eq_right (Nat.le_of_lt hwD)
    simp [unitOutcome, hs, hw, hmin, Nat.not_le.2 hwD, Reply.outcome]

/-- The outcome a unit reports for how its call ended; `none` for a call that never ends. -/
def endOutcome (req : Request) (p : Provider) (s : Nat) : CallEnd → Option Outcome
  | .never => none
  | .crashed _ _ => some (.error "unit panicked" none none)
  | .answered t (.ok comp) => some (.success (Reply.response req p comp (t - s)))
  | .answered _ (.error e) => some (Outcome.ofFailure e)

theorem unitOutcome_of_seesCancel {G : Context} {D : Nat} {req : Request} {p : Provider}
    {s : Nat} (hs : G.taskSeesCancel s = true) (a : Option (Nat × Reply)) :
    unitOutcome G D req p s a = .cancelled := by
  rcases a with _ | ⟨w, r⟩ <;> simp [unitOutcome, hs]

theorem unitOutcome_of_expired {G : Context} {D : Nat} {req : Request} {p : Provider}
    {s : Nat} (hs : G.taskSeesCancel s = false) (hDs : D ≤ s) {a : Option (Nat × Reply)}
    (ha : ∀ w r, a = some (w, r) → s ≤ w) :
    unitOutcome G D req p s a = .timeout := by
  -- a cancellation due by the deadline would have been due by the start
  have hD : G.taskSeesCancel D = false :=
    Bool.eq_false_iff.2 fun h => by simp [G.taskSeesCancel_mono hDs h] at hs
  rcases a with _ | ⟨w, r⟩
  · simp [unitOutcome, hs, hD]
  · have hDw : D ≤ w := Nat.le_trans hDs (ha w r rfl)
    simp [unitOutcome, hs, hD, hDw]

/-- **The race of one unit.** A client's call run as a unit under the shared context ends by
the rule: its outcome is the one `unitOutcome` gives for the client's reply. -/
theorem endOutcome_call (c : Backend) {G : Context} {D : Nat} (hD : G.deadline = some D)
    (req : Request) (p : Provider) (s : Nat) :
    endOutcome req p s (c.call .task G s req).1 =
      some (unitOutcome G D req p s (c.reply G req s)) := by
  by_cases hck : G.taskCheck s = .ok ()
  · obtain ⟨hs, hsD⟩ := (Context.taskCheck_eq_ok hD).1 hck
    cases c with
    | hosted h e =>
      simp only [Backend.call, Waiter.check, hck, Waiter.waitFrom, Backend.reply,
        HostedClient.query_fst]
      rcases hf : (h.promptRun e G s).finish with _ | w
      · rcases Context.taskWaitFrom_none hD hs with ⟨hc, t, hw⟩ | ⟨hc, hw⟩ <;>
          simp [hw, endOutcome, unitOutcome, hs, hc, Outcome.ofFailure]
      · -- the run of the prompts ends at `w`, no earlier than the unit started
        have hsw := h.promptRun_le_finish e G s hf
        rcases Context.taskWaitFrom_some hD hs hsw hsD with
          ⟨hc, t, hw⟩ | ⟨hc, hDw, hw⟩ | ⟨hc, hwD, hw⟩ <;>
        rcases hr : (h.promptRun e G s).result with f | a <;>
        simp_all [endOutcome, unitOutcome, Outcome.ofFailure, Reply.outcome, Except.map,
          Nat.not_le_of_lt]
    | scripted b =>
      have hd := ScriptedBackend.take_delayMs b
      rcases ht : b.take with ⟨r, b'⟩
      rw [ht] at hd
      simp only [Backend.call, Waiter.check, hck, Waiter.waitFrom, Backend.reply, ht]
      by_cases hr : r = .hang
      · subst hr
        rcases Context.taskWaitFrom_none hD hs with ⟨hc, t, hw⟩ | ⟨hc, hw⟩ <;>
          simp [ScriptedBackend.workEnd, hw, endOutcome, unitOutcome, hs, hc, Outcome.ofFailure]
      · -- every other cue is due once the delay has passed
        have hwork : b'.workEnd r s = some (s + b.delayMs.getD 0) := by
          cases r <;> simp_all [ScriptedBackend.workEnd]
        rcases Context.taskWaitFrom_some hD hs (Nat.le_add_right s (b.delayMs.getD 0)) hsD with
          ⟨hc, t, hw⟩ | ⟨hc, hDw, hw⟩ | ⟨hc, hwD, hw⟩ <;>
        cases r <;>
        simp_all [endOutcome, unitOutcome, Outcome.ofFailure, Reply.outcome]
  · -- the unit sees the context done at its start and never calls the client
    by_cases hs : G.taskSeesCancel s = true
    · have hf : G.taskCheck s = .error .cancelled := by simp [Context.taskCheck, hs]
      simp [Backend.call, Waiter.check, hf, endOutcome, Outcome.ofFailure,
        unitOutcome_of_seesCancel hs]
    · have hDs : D ≤ s := Nat.le_of_not_lt fun hsD =>
        hck ((Context.taskCheck_eq_ok hD).2 ⟨by simpa using hs, hsD⟩)
      have hf : G.taskCheck s = .error .deadlineExceeded := by
        simp [Context.taskCheck, Context.expiredAt, hD, hs, hDs]
      simp [Backend.call, Waiter.check, hf, endOutcome, Outcome.ofFailure,
        unitOutcome_of_expired (by simpa using hs) hDs (fun w r h => Backend.le_of_reply h)]

/-! ## One unit in the gateway -/

/-- A unit whose call ends returns the call's outcome, provided a success's token total fits a
64-bit count. It leaves the clock where it was and changes only its own provider's entry. -/
theorem exec_runUnit {G : Context} {req : Request} {s : Nat} {p : Provider} {c : Backend}
    {o : Outcome} (ho : endOutcome req p s (c.call .task G s req).1 = some o)
    (hfit : ∀ r, o = .success r → r.totalTokens < 2 ^ 64) (g : Gateway) :
    ∃ t g', (runUnit G req s p c).exec g = (.ok (o, t), g') ∧ g'.clock = g.clock ∧
      ∀ q, q ≠ p → g'.registry.client? q = g.registry.client? q := by
  unfold runUnit
  rcases hcall : c.call .task G s req with ⟨e, c'⟩
  rw [hcall] at ho
  dsimp only
  rw [exec_bind_of_ok (exec_modifyRegistry _ g)]
  -- every registry change below is to the unit's own provider's entry
  have hset : ∀ q, q ≠ p → (g.registry.setClient p c').client? q = g.registry.client? q :=
    fun q hq => Registry.client?_modify_of_ne _ _ hq
  cases e with
  | never => cases ho
  | crashed t cr =>
    cases ho
    refine ⟨t, { g with registry := (g.registry.setClient p c').recordFailure p }, ?_, rfl,
      fun q hq => ?_⟩
    · dsimp only
      rw [exec_bind_of_ok (exec_modifyRegistry _ _), exec_pure]
    · rw [Registry.recordFailure, Registry.client?_modify_of_ne _ _ hq, hset q hq]
  | answered t r =>
    cases r with
    | ok comp =>
      cases ho
      have hlt := hfit _ rfl
      refine ⟨t, { g with registry := (g.registry.setClient p c').recordSuccess p (t - s) }, ?_,
        rfl, fun q hq => ?_⟩
      · dsimp only
        rw [exec_bind_of_ok (exec_modifyRegistry _ _)]
        simp only [Response.ofCompletion, addChecked_of_lt hlt]
        rfl
      · rw [Registry.recordSuccess, Registry.client?_modify_of_ne _ _ hq, hset q hq]
    | error f =>
      cases ho
      dsimp only
      split
      · refine ⟨t, { g with registry := (g.registry.setClient p c').recordFailure p }, ?_, rfl,
          fun q hq => ?_⟩
        · rw [exec_bind_of_ok (exec_modifyRegistry _ _), exec_pure]
        · rw [Registry.recordFailure, Registry.client?_modify_of_ne _ _ hq, hset q hq]
      · exact ⟨t, _, exec_pure _ _, rfl, hset⟩

/-! ## The targets and the loop over them -/

/-- The state a fan-out started in `g` is in once its targets are known: after the refresh
under the shared context when no provider was asked for, and `g` itself otherwise. -/
def targetsKnown (G : Context) (providers : List Provider) (g : Gateway) : Gateway :=
  if providers.isEmpty then ((availableWithin G).exec g).2 else g

/-- The targets: the providers asked for, or, when none are, the providers up in the map once
the targets are known; each once, in provider order. -/
def targetList (providers : List Provider) (gs : Gateway) : List Provider :=
  Provider.sortDedup (if providers.isEmpty then gs.router.available else providers)

theorem mem_targetList {providers : List Provider} {gs : Gateway} {p : Provider} :
    p ∈ targetList providers gs ↔
      p ∈ (if providers.isEmpty then gs.router.available else providers) := by
  simp [targetList, Provider.sortDedup, Provider.mem_all]

theorem targetList_nodup (providers : List Provider) (gs : Gateway) :
    (targetList providers gs).Nodup := by
  refine (Provider.sortDedup_pairwise _).imp fun {a b} hab => ?_
  rintro rfl
  exact Nat.lt_irrefl _ hab

/-- The outcome the rule gives target `p` of a fan-out whose units start in state `gs`: a
missing-credential error without a client, the unit's outcome otherwise. -/
def targetOutcome (G : Context) (D : Nat) (req : Request) (gs : Gateway) (p : Provider) :
    Outcome :=
  match gs.registry.client? p with
  | none => unconfigured p
  | some c => unitOutcome G D req p gs.clock (c.reply G req gs.clock)

theorem exec_fanoutTargets (G : Context) (providers : List Provider) (g : Gateway) :
    (fanoutTargets G providers).exec g =
      (.ok (if providers.isEmpty then (targetsKnown G providers g).router.available
        else providers), targetsKnown G providers g) := by
  unfold fanoutTargets targetsKnown
  by_cases hp : providers.isEmpty = true
  · simp only [hp, if_true]
    rcases hr : (availableWithin G).exec g with ⟨r, g₁⟩
    obtain ⟨a, rfl, hup, -⟩ := (availableWithin_ends G g).elim hr
    rw [exec_bind_of_ok hr]
    -- a refresh cut short leaves the map as it stands, which is what is read then
    rcases a with e | up
    · rfl
    · rw [(hup up rfl).1]
      rfl
  · simp only [hp]
    rfl

theorem insertOutcome_of_lt {p : Provider} {o : Outcome} {results : List (Provider × Outcome)}
    (h : ∀ e ∈ results, e.1.rank < p.rank) : insertOutcome p o results = results ++ [(p, o)] := by
  induction results with
  | nil => rfl
  | cons e rest ih =>
    obtain ⟨q, o'⟩ := e
    have hq : q.rank < p.rank := h _ List.mem_cons_self
    have hne : p ≠ q := fun hpq => by
      subst hpq
      exact Nat.lt_irrefl _ hq
    rw [insertOutcome, if_neg (Nat.not_lt.2 (Nat.le_of_lt hq)), if_neg hne,
      ih fun e he => h e (List.mem_cons_of_mem _ he)]
    rfl

/-- **The loop.** Run over targets in increasing provider order, from a state whose clock and
clients are those of `gs`, the units append the rule's outcomes to the results so far. -/
theorem exec_runTargets {G : Context} {D : Nat} (hD : G.deadline = some D) {req : Request}
    {gs : Gateway} (ps : List Provider) (hps : ps.Pairwise (fun a b => a.rank < b.rank))
    (hfit : ∀ p ∈ ps, ∀ r, targetOutcome G D req gs p = .success r → r.totalTokens < 2 ^ 64)
    (results : List (Provider × Outcome)) (hres : ∀ e ∈ results, ∀ p ∈ ps, e.1.rank < p.rank)
    (finish : Nat) (g : Gateway) (hclock : g.clock = gs.clock)
    (hclients : ∀ p ∈ ps, g.registry.client? p = gs.registry.client? p) :
    ∃ finish' g', (runTargets G req gs.clock ps results finish).exec g =
      (.ok (results ++ ps.map (fun p => (p, targetOutcome G D req gs p)), finish'), g') := by
  -- on the targets still to run; the results so far are all of lower rank, so each new
  -- outcome goes at the end, and a unit leaves the clients of the later targets alone
  induction ps generalizing results finish g with
  | nil => exact ⟨finish, g, by simp [runTargets]⟩
  | cons p ps ih =>
    obtain ⟨hp, hps⟩ := List.pairwise_cons.1 hps
    have hins : insertOutcome p (targetOutcome G D req gs p) results =
        results ++ [(p, targetOutcome G D req gs p)] :=
      insertOutcome_of_lt fun e he => hres e he p List.mem_cons_self
    have hres' : ∀ e ∈ results ++ [(p, targetOutcome G D req gs p)], ∀ q ∈ ps,
        e.1.rank < q.rank := by
      intro e he q hq
      rcases List.mem_append.1 he with he | he
      · exact hres e he q (List.mem_cons_of_mem _ hq)
      · rw [List.mem_singleton.1 he]
        exact hp q hq
    have hfit' := fun q hq => hfit q (List.mem_cons_of_mem p hq)
    have hgoal : results ++ (p, targetOutcome G D req gs p) :: ps.map
        (fun q => (q, targetOutcome G D req gs q)) =
        results ++ [(p, targetOutcome G D req gs p)] ++ ps.map
        (fun q => (q, targetOutcome G D req gs q)) := by simp
    rw [runTargets, exec_get_bind, List.map_cons, hgoal]
    have hc := hclients p List.mem_cons_self
    rcases hcp : g.registry.client? p with _ | c
    · have hout : targetOutcome G D req gs p = unconfigured p := by
        rw [targetOutcome, ← hc, hcp]
      dsimp only
      rw [← hout, hins]
      exact ih hps hfit' _ hres' finish g hclock fun q hq => hclients q (List.mem_cons_of_mem p hq)
    · have hout : targetOutcome G D req gs p = unitOutcome G D req p gs.clock
          (c.reply G req gs.clock) := by
        rw [targetOutcome, ← hc, hcp]
      obtain ⟨t, g₁, hrun, hclock₁, hkeep⟩ := exec_runUnit (endOutcome_call c hD req p gs.clock)
        (fun r hr => hfit p List.mem_cons_self r (hout.trans hr)) g
      dsimp only
      rw [exec_bind_of_ok hrun, ← hout, hins]
      refine ih hps hfit' _ hres' (max finish t) g₁ (hclock₁.trans hclock) fun q hq => ?_
      have hne : q ≠ p := fun hqp => by
        subst hqp
        exact Nat.lt_irrefl _ (hp q hq)
      rw [hkeep q hne]
      exact hclients q (List.mem_cons_of_mem p hq)

/-! ## The fan-out -/

/-- **What a fan-out answers.** Started in `g`, with the shared context `G` and its deadline
`D`, and `gs` the state once the targets are known, a fan-out whose successes' token totals
fit a 64-bit count returns a report with the request's id and, for each target once and in
provider order, the outcome the rule gives it. -/
theorem handleFanout_outcomes (ctx : Context) (req : Request) (providers : List Provider)
    (timeout : Option Nat) (g : Gateway) :
    let t := timeout.getD g.fanoutTimeoutMs
    let G := ctx.narrowed g.clock t
    let D := sharedDeadline ctx g.clock t
    let gs := targetsKnown G providers g
    (∀ p ∈ targetList providers gs, ∀ r, targetOutcome G D req gs p = .success r →
      r.totalTokens < 2 ^ 64) →
    ∃ latencyMs g', (handleFanout ctx req providers timeout).exec g =
      (.ok { requestId := req.requestId,
             results := (targetList providers gs).map (fun p => (p, targetOutcome G D req gs p)),
             latencyMs := latencyMs }, g') := by
  intro t G D gs hfit
  -- the units start when the targets are known, with no results yet
  obtain ⟨finish, g₁, hrun⟩ := exec_runTargets (narrowed_deadline ctx g.clock t)
    (targetList providers gs) (Provider.sortDedup_pairwise _) hfit []
    (fun _ he => absurd he List.not_mem_nil) gs.clock gs rfl fun _ _ => rfl
  unfold handleFanout
  rw [exec_bind_of_ok (exec_now g), exec_get_bind,
    exec_bind_of_ok (exec_fanoutTargets G providers g), exec_bind_of_ok (exec_now _)]
  exact ⟨finish - g.clock, _, (exec_bind_of_ok hrun _).trans rfl⟩

/-- A fan-out to a repeated provider and an unregistered one: the registered provider answers
once, the other gets the missing-credential outcome, in provider order. -/
theorem handleFanout_outcomes_of_repeated_targets :
    let ctx : Context := {}
    let req : Request := { query := "ping" }
    let b : ScriptedBackend := { provider := .openai, standing := .text "pong", delayMs := some 10 }
    let g : Gateway :=
      { registry := { entries := [(.openai, { client := .scripted b })] },
        router := { rng := Random.Rng.ofSeed 0 }, store := .counting {} }
    let answer : Response :=
      { text := "pong", provider := .openai, latencyMs := 10, cached := false,
        inputTokens := 1, outputTokens := 1, totalTokens := 2, retries := 0 }
    ∃ latencyMs g', (handleFanout ctx req [.gemini, .openai, .openai] (some 1000)).exec g =
      (.ok { requestId := none, latencyMs := latencyMs,
             results := [(.openai, .success answer), (.gemini, unconfigured .gemini)] }, g') := by
  intro ctx req b g answer
  have hres : (targetList [.gemini, .openai, .openai] g).map
      (fun p => (p, targetOutcome (ctx.narrowed 0 1000) 1000 req g p)) =
      [(.openai, .success answer), (.gemini, unconfigured .gemini)] := by decide
  have hfit : ∀ p ∈ targetList [.gemini, .openai, .openai] g, ∀ r,
      targetOutcome (ctx.narrowed 0 1000) 1000 req g p = .success r → r.totalTokens < 2 ^ 64 := by
    intro p hp r hr
    have hL : targetList [.gemini, .openai, .openai] g = [.openai, .gemini] := by decide
    rw [hL] at hp hres
    simp only [List.map_cons, List.map_nil, List.cons.injEq, Prod.mk.injEq, true_and,
      and_true] at hres
    simp only [List.mem_cons, List.not_mem_nil, or_false] at hp
    rcases hp with rfl | rfl
    · rw [hres.1] at hr
      cases hr
      decide
    · rw [hres.2] at hr
      cases hr
  refine (handleFanout_outcomes ctx req [.gemini, .openai, .openai] (some 1000) g hfit).imp
    fun latencyMs => Exists.imp fun g' h => h.trans ?_
  exact congrArg (fun l => ((.ok { requestId := none, results := l, latencyMs := latencyMs } :
    Except Stop FanoutReport), g')) hres

end Gateway

end QueryRelay
