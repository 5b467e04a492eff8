import QueryRelay.Retry
import QueryRelay.Proofs.Waits

/-!
# What a retry run does

`RetrySettings.run` drives an operation through a retry policy under a context. This file says
what a run does for every policy, every context, every operation and every draw of the jittered
waits, whatever the operation answers, whenever it answers and whether it answers at all. The
description is an inductive relation (`RetrySettings.Runs`), over the wait taken before each
retry, with one constructor for each way an attempt can end:

* `hangs`: the attempt never returns, and neither does the run;
* `succeeds`: the first success ends the run when it returns;
* `final`: a failure not worth retrying ends the run when it returns, without a wait; the
  context's own failures and a report of the providers tried are such failures;
* `exhausted`: a retryable failure of attempt `maxRetries` ends the run when it returns;
* `cut`: after a retryable failure of an earlier attempt the run waits that attempt's wait
  under the context; when the context does not let it run to the end of the wait, the run ends
  inside the wait with the context's own failure, and no attempt follows;
* `retries`: otherwise the next attempt is made exactly when the wait ends.

A run satisfies the description (`run_follows_policy`). From the description alone, the
attempts are `0, 1, …, k` in order for some `k ≤ maxRetries` (`Runs.attempts`): the operation
runs at most `maxRetries + 1` times and the attempt number never passes `maxRetries`, so a
counter as wide as `maxRetries` never overflows.

The waits are the policy's backoffs (`RetrySettings.backoff`); for a policy whose jitter is
zero they are the base waits (`baseBackoff`), whatever the draws.
-/

namespace QueryRelay

namespace RetrySettings

variable {α : Type}

/-- How a run of `op` under the policy `s` and the context `ctx`, waiting `wait i` after a
retryable failure of attempt `i`, goes from attempt `i`, called at `t`: its calls, its result
and when it ends. -/
inductive Runs (s : RetrySettings) (wait : Nat → Nat) (ctx : Context)
    (op : Nat → Nat → Except Failure α × Option Nat) : Nat → Nat → RunLog α → Prop where
  /-- The attempt never returns, and neither does the run. -/
  | hangs {i t : Nat} {r : Except Failure α} :
      op i t = (r, none) → Runs s wait ctx op i t ⟨[⟨i, t⟩], r, none⟩
  /-- A success ends the run when it returns. -/
  | succeeds {i t u : Nat} {a : α} :
      op i t = (.ok a, some u) → Runs s wait ctx op i t ⟨[⟨i, t⟩], .ok a, some u⟩
  /-- A failure not worth retrying ends the run when it returns, without a wait. -/
  | final {i t u : Nat} {e : Failure} :
      op i t = (.error e, some u) → e.isRetryable = false →
      Runs s wait ctx op i t ⟨[⟨i, t⟩], .error e, some u⟩
  /-- A retryable failure of the last allowed attempt ends the run when it returns. -/
  | exhausted {i t u : Nat} {e : Failure} :
      op i t = (.error e, some u) → e.isRetryable = true → s.maxRetries ≤ i →
      Runs s wait ctx op i t ⟨[⟨i, t⟩], .error e, some u⟩
  /-- The context ends the wait after a retryable failure: the run fails inside the wait with
  the context's own failure, due by then, and no attempt follows. -/
  | cut {i t u v : Nat} {e f : Failure} :
      op i t = (.error e, some u) → e.isRetryable = true → i < s.maxRetries →
      ¬ ctx.RunsUntil (u + wait i) → u ≤ v → v ≤ u + wait i →
      ctx.DoneBy v f → Runs s wait ctx op i t ⟨[⟨i, t⟩], .error f, some v⟩
  /-- After a retryable failure below the limit, the run waits exactly the attempt's wait and
  makes the next attempt when the wait ends. -/
  | retries {i t u : Nat} {e : Failure} {rest : RunLog α} :
      op i t = (.error e, some u) → e.isRetryable = true → i < s.maxRetries →
      ctx.RunsUntil (u + wait i) → Runs s wait ctx op (i + 1) (u + wait i) rest →
      Runs s wait ctx op i t ⟨⟨i, t⟩ :: rest.calls, rest.result, rest.finish⟩

/-- **The attempts of a run.** From attempt `i ≤ maxRetries`, the attempts made are
`i, i + 1, …, i + k` in order, and `i + k ≤ maxRetries`. -/
theorem Runs.attempts {s : RetrySettings} {wait : Nat → Nat} {ctx : Context}
    {op : Nat → Nat → Except Failure α × Option Nat} {i t : Nat} {l : RunLog α}
    (h : Runs s wait ctx op i t l) (hi : i ≤ s.maxRetries) :
    ∃ k, i + k ≤ s.maxRetries ∧ l.calls.map Call.attempt = List.range' i (k + 1) := by
  induction h with
  | hangs => exact ⟨0, by omega, rfl⟩
  | succeeds => exact ⟨0, by omega, rfl⟩
  | final => exact ⟨0, by omega, rfl⟩
  | exhausted => exact ⟨0, by omega, rfl⟩
  | cut => exact ⟨0, by omega, rfl⟩
  | @retries i t u e rest _ _ hlt _ _ ih =>
    obtain ⟨k, hk, hcalls⟩ := ih (by omega)
    refine ⟨k + 1, by omega, ?_⟩
    rw [List.map_cons, hcalls]
    exact List.range'_succ.symm

/-- **What a run fails with.** A run that fails failed with the failure of one of its attempts,
or with the context's own failure. -/
theorem Runs.failure {s : RetrySettings} {wait : Nat → Nat} {ctx : Context}
    {op : Nat → Nat → Except Failure α × Option Nat} {i t : Nat} {l : RunLog α}
    (h : Runs s wait ctx op i t l) {e : Failure} (he : l.result = .error e) :
    (∃ j u, (op j u).1 = .error e) ∨ ∃ v, ctx.DoneBy v e := by
  induction h with
  | hangs hop => exact .inl ⟨_, _, by rw [hop]; exact he⟩
  | succeeds => cases he
  | final hop =>
    obtain rfl := Except.error.inj he
    exact .inl ⟨_, _, by rw [hop]⟩
  | exhausted hop =>
    obtain rfl := Except.error.inj he
    exact .inl ⟨_, _, by rw [hop]⟩
  | cut _ _ _ _ _ _ hdone =>
    obtain rfl := Except.error.inj he
    exact .inr ⟨_, hdone⟩
  | retries _ _ _ _ _ ih => exact ih he

/-- A run ends no earlier than it starts, when no attempt returns before it starts. -/
theorem Runs.le_finish {s : RetrySettings} {wait : Nat → Nat} {ctx : Context}
    {op : Nat → Nat → Except Failure α × Option Nat}
    (hop : ∀ j u v, (op j u).2 = some v → u ≤ v) {i t : Nat} {l : RunLog α}
    (h : Runs s wait ctx op i t l) {v : Nat} (hv : l.finish = some v) : t ≤ v := by
  induction h with
  | hangs => cases hv
  | succeeds hop' =>
    obtain rfl := Option.some.inj hv
    exact hop _ _ _ (by rw [hop'])
  | final hop' =>
    obtain rfl := Option.some.inj hv
    exact hop _ _ _ (by rw [hop'])
  | exhausted hop' =>
    obtain rfl := Option.some.inj hv
    exact hop _ _ _ (by rw [hop'])
  | cut hop' _ _ _ huv _ _ =>
    obtain rfl := Option.some.inj hv
    exact Nat.le_trans (hop _ _ _ (by rw [hop'])) huv
  | retries hop' _ _ _ _ ih =>
    -- the next attempt starts once the wait after this one's return has passed
    exact Nat.le_trans (hop _ _ _ (by rw [hop']))
      (Nat.le_trans (Nat.le_add_right _ _) (ih hv))

/-- A run whose attempt fails with a failure not worth retrying is that attempt alone. -/
theorem Runs.eq_of_final {s : RetrySettings} {wait : Nat → Nat} {ctx : Context}
    {op : Nat → Nat → Except Failure α × Option Nat} {i t u : Nat} {e : Failure} {l : RunLog α}
    (h : Runs s wait ctx op i t l) (hop : op i t = (.error e, some u))
    (hr : e.isRetryable = false) : l = ⟨[⟨i, t⟩], .error e, some u⟩ := by
  cases h with
  | hangs h' => rw [hop] at h'; cases h'
  | succeeds h' => rw [hop] at h'; cases h'
  | final h' =>
    rw [hop] at h'
    cases h'
    rfl
  | exhausted h' =>
    rw [hop] at h'
    cases h'
    rfl
  | cut h' hr' =>
    rw [hop] at h'
    cases h'
    rw [hr] at hr'
    cases hr'
  | retries h' hr' =>
    rw [hop] at h'
    cases h'
    rw [hr] at hr'
    cases hr'

/-! ## The loop follows the description -/

/-- A failure that the loop does not end with is retryable and came from an attempt below the
limit. -/
theorem retryable_of_continue {e : Failure} {i m : Nat}
    (h : ¬(!e.isRetryable || decide (i ≥ m)) = true) : e.isRetryable = true ∧ i < m := by
  simp only [Bool.or_eq_true, Bool.not_eq_eq_eq_not, Bool.not_true, decide_eq_true_eq,
    not_or, Nat.not_le] at h
  exact ⟨by simpa using h.1, h.2⟩

/-- **The loop follows the policy.** With as much fuel as attempts are left after attempt `i`,
the loop from attempt `i` at `t` adds the calls of a run that `Runs` describes to the calls made
before, and ends as that run does. -/
theorem loop_runs (s : RetrySettings) (jittered : Nat → Nat) (ctx : Context)
    (op : Nat → Nat → Except Failure α × Option Nat) (i t : Nat) (calls : List Call) (fuel : Nat)
    (hfuel : i + fuel = s.maxRetries) :
    ∃ l, Runs s (s.backoff jittered) ctx op i t l ∧
      run.loop s jittered ctx op i t calls fuel = ⟨calls ++ l.calls, l.result, l.finish⟩ := by
  fun_induction run.loop s jittered ctx op i t calls fuel with
  | case1 fuel i t calls calls' r hop => exact ⟨_, .hangs hop, rfl⟩
  | case2 fuel i t calls calls' u a hop => exact ⟨_, .succeeds hop, rfl⟩
  | case3 fuel i t calls calls' u e hstop hop =>
    cases hr : e.isRetryable
    · exact ⟨_, .final hop hr, rfl⟩
    · have hmax : s.maxRetries ≤ i := by
        simpa [hr] using hstop
      exact ⟨_, .exhausted hop hr hmax, rfl⟩
  | case4 fuel i t calls calls' u e hgo v f hw hop =>
    obtain ⟨hr, hi⟩ := retryable_of_continue hgo
    obtain ⟨hnot, huv, hvw, hdone⟩ := Context.wait_stopped (Nat.le_add_right u _) hw
    exact ⟨_, .cut hop hr hi hnot huv hvw hdone, rfl⟩
  | case5 fuel i t calls calls' u e hgo hw hop =>
    exact absurd hw (Context.wait_ne_forever ctx u _)
  | case6 i t calls calls' u e hgo v hw hop =>
    -- no fuel is left only at the last allowed attempt, which the loop does not retry
    obtain ⟨-, hi⟩ := retryable_of_continue hgo
    omega
  | case7 i t calls calls' u e hgo v hw fuel hop ih =>
    obtain ⟨hr, hi⟩ := retryable_of_continue hgo
    obtain ⟨rfl, hrun⟩ := Context.wait_done hw
    obtain ⟨l, hl, heq⟩ := ih (by omega)
    refine ⟨⟨⟨i, t⟩ :: l.calls, l.result, l.finish⟩, .retries hop hr hi hrun hl, ?_⟩
    rw [heq]
    simp [calls']

/-- A run is described by `Runs` from attempt `0`, with the policy's backoffs as its waits. -/
theorem runs_run [Inhabited α] (s : RetrySettings) (jittered : Nat → Nat) (ctx : Context)
    (op : Nat → Nat → Except Failure α × Option Nat) (now : Nat) :
    s.Runs (s.backoff jittered) ctx op 0 now (s.run jittered ctx op now) := by
  obtain ⟨l, hl, heq⟩ := loop_runs s jittered ctx op 0 now [] s.maxRetries (Nat.zero_add _)
  have hrun : s.run jittered ctx op now = l := by
    show run.loop s jittered ctx op 0 now [] s.maxRetries = l
    rw [heq, List.nil_append]
  rw [hrun]
  exact hl

/-- With no jitter every wait is the base wait, whatever the draws. -/
theorem backoff_of_exactWaits {s : RetrySettings} (h : s.exactWaits = true)
    (jittered : Nat → Nat) : s.backoff jittered = s.baseBackoff := by
  funext attempt
  simp [backoff, h]

/-- **A retry run follows its policy.** For every policy, every draw of the jittered waits,
every context, every operation and every start, the run is described by `Runs` from attempt `0`
with the policy's backoffs as its waits, and with the base waits when the jitter is zero; its
attempts are `0, 1, …, k` in order for some `k ≤ maxRetries`. -/
theorem run_follows_policy [Inhabited α] (s : RetrySettings) (jittered : Nat → Nat)
    (ctx : Context) (op : Nat → Nat → Except Failure α × Option Nat) (now : Nat) :
    s.Runs (s.backoff jittered) ctx op 0 now (s.run jittered ctx op now) ∧
    (s.exactWaits = true → s.Runs s.baseBackoff ctx op 0 now (s.run jittered ctx op now)) ∧
    ∃ k ≤ s.maxRetries, (s.run jittered ctx op now).calls.map Call.attempt = List.range (k + 1) := by
  have hl := runs_run s jittered ctx op now
  obtain ⟨k, hk, hcalls⟩ := hl.attempts (Nat.zero_le _)
  refine ⟨hl, fun hexact => ?_, k, by omega, by rw [hcalls, List.range_eq_range']⟩
  rwa [backoff_of_exactWaits hexact jittered] at hl

end RetrySettings

end QueryRelay
