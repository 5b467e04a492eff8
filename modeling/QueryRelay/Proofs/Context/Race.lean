import QueryRelay.Context.Tree
import QueryRelay.Proofs.Waits

/-!
# The race of a run: cancellation, deadline, work

A run under a context checks the context when it starts, and then waits for three things at
once, looking at them in a fixed order each time it wakes: the cancellation, the deadline, the
work. This file states what that order decides, for either waiter and every context, start and
work, as a rule in a caller's terms (`Waiter.ruled`), and proves that a run answers by it
(`Waiter.wait_eq_ruled`):

* a context that is done when the run starts fails the run at once, whatever the work;
* otherwise the run ends with its work exactly when the work completes strictly before the
  deadline and before the waiter sees a cancellation;
* otherwise a cancellation the waiter sees by the deadline ends it, at the instant it falls due;
  failing that the deadline ends it; with neither, the run never ends.

What a waiter sees (`Waiter.sees`) is where the two waiters differ. The request's own flow acts at
an instant before a cancellation that falls due then; a separate task acts after it.
-/

namespace QueryRelay

namespace Waiter

/-- Whether the waiter sees the context cancelled at instant `t`. -/
def sees : Waiter → Context → Nat → Bool
  | .flow, c, t => c.cancelledAt t
  | .task, c, t => c.taskSeesCancel t

/-- How a run ends when its work does not win: a cancellation the waiter sees by the deadline
ends it when it falls due, else the deadline ends it, else nothing does. (A context cancelled
from the start fails the check and never gets here.) -/
def lost (w : Waiter) (c : Context) : WaitEnd :=
  match c.cancel, c.deadline with
  | .at tc, some d => if w.sees c d then .stopped tc .cancelled else .stopped d .deadlineExceeded
  | .at tc, none => .stopped tc .cancelled
  | _, some d => .stopped d .deadlineExceeded
  | _, none => .forever

/-- How a run that passed its check ends for work done at `e`: with the work if it completes
strictly before the deadline and before the waiter sees a cancellation, else as `lost` says. -/
def race (w : Waiter) (c : Context) : Option Nat → WaitEnd
  | some t => if Context.strictlyBefore t c.deadline && !w.sees c t then .done t else w.lost c
  | none => w.lost c

/-- How a run from `s` for work done at `e` ends by the rule of its race: a context done at `s`
fails it at once, whatever the work; otherwise `race` decides. -/
def ruled (w : Waiter) (c : Context) (s : Nat) (e : Option Nat) : WaitEnd :=
  match w.check c s with
  | .error f => .stopped s f
  | .ok () => w.race c e

end Waiter

namespace Context

theorem check_eq_ok_iff {c : Context} {s : Nat} :
    c.check s = .ok () ↔ c.cancelledAt s = false ∧ c.expiredAt s = false := by
  unfold check
  cases c.cancelledAt s <;> cases c.expiredAt s <;> simp

theorem taskCheck_eq_ok_iff {c : Context} {s : Nat} :
    c.taskCheck s = .ok () ↔ c.taskSeesCancel s = false ∧ c.expiredAt s = false := by
  unfold taskCheck
  cases c.taskSeesCancel s <;> cases c.expiredAt s <;> simp

/-- A deadline the check at `s` passed lies after `s`. -/
theorem lt_of_expiredAt {c : Context} {s d : Nat} (hx : c.expiredAt s = false)
    (hd : c.deadline = some d) : s < d := by
  unfold expiredAt at hx
  rw [hd] at hx
  simpa using hx

/-- Without a cancellation the deadline races the work alone, as `race` has it. -/
theorem deadlineOrWork_eq_race {c : Context} (w : Waiter) (e : Option Nat)
    (hc : c.cancel = .never) : deadlineOrWork c.deadline e = w.race c e := by
  have hsees : ∀ t, w.sees c t = false := by
    intro t
    cases w <;> simp [Waiter.sees, cancelledAt, taskSeesCancel, hc]
  cases hd : c.deadline with
  | none =>
    cases e <;> simp [deadlineOrWork, Waiter.race, Waiter.lost, hc, hd, hsees, strictlyBefore]
  | some d =>
    cases e with
    | none => simp [deadlineOrWork, Waiter.race, Waiter.lost, hc, hd]
    | some t =>
      by_cases hdt : d ≤ t
      · simp [deadlineOrWork, Waiter.race, Waiter.lost, hc, hd, strictlyBefore, hdt,
          Nat.not_lt.mpr hdt]
      · simp [deadlineOrWork, Waiter.race, hd, hsees, strictlyBefore, hdt, Nat.lt_of_not_le hdt]

/-- **The flow's race.** After its check at `s`, the flow's wait ends as `race` says: a
cancellation due at `tc` wins if it falls due strictly before both the work and the deadline,
the work wins if it completes by the cancellation and before the deadline, and the deadline wins
otherwise. -/
theorem waitFrom_eq_race {c : Context} {s : Nat} (e : Option Nat) (hck : c.check s = .ok ()) :
    c.waitFrom s e = Waiter.flow.race c e := by
  obtain ⟨hcan, hexp⟩ := check_eq_ok_iff.1 hck
  rcases hc : c.cancel with _ | _ | tc
  · -- never cancelled: the deadline against the work
    unfold waitFrom
    rw [hc]
    exact deadlineOrWork_eq_race .flow e hc
  · -- cancelled from the start: the check failed
    simp [cancelledAt, hc] at hcan
  · have hs : s ≤ tc := by simpa [cancelledAt, hc] using hcan
    unfold waitFrom
    simp only [hc, Waiter.race, Waiter.lost, Waiter.sees, cancelledAt, decide_eq_true_eq, hs,
      decide_true, Bool.true_and]
    cases hd : c.deadline with
    | none =>
      cases e with
      | none => simp [strictlyBefore]
      | some t =>
        by_cases htc : tc < t
        · simp [strictlyBefore, htc]
        · simp [strictlyBefore, deadlineOrWork, htc]
    | some d =>
      cases e with
      | none =>
        by_cases htd : tc < d
        · simp [strictlyBefore, htd]
        · simp [strictlyBefore, deadlineOrWork, htd]
      | some t =>
        -- which of the three comes first: the cancellation, the work, or the deadline
        rcases (by omega : (tc < t ∧ tc < d) ∨ (t ≤ tc ∧ t < d) ∨ (d ≤ t ∧ d ≤ tc)) with
          ⟨h₁, h₂⟩ | ⟨h₁, h₂⟩ | ⟨h₁, h₂⟩
        · simp [strictlyBefore, h₁, h₂]
        · simp [strictlyBefore, deadlineOrWork_some, h₂, Nat.not_lt.mpr h₁]
        · simp [strictlyBefore, deadlineOrWork_some, Nat.not_lt.mpr h₁, Nat.not_lt.mpr h₂]

/-- **A task's race.** After its check at `s`, a separate task's wait ends as `race` says. Work
done at `s` itself completes; later, a cancellation due at `tc` wins if it falls due by both the
work and the deadline, the work wins if it completes before both, and the deadline otherwise. -/
theorem taskWaitFrom_eq_race {c : Context} {s : Nat} (e : Option Nat)
    (hck : c.taskCheck s = .ok ()) : c.taskWaitFrom s e = Waiter.task.race c e := by
  obtain ⟨hcan, hexp⟩ := taskCheck_eq_ok_iff.1 hck
  have hlt : ∀ d, c.deadline = some d → s < d := fun d hd => lt_of_expiredAt hexp hd
  by_cases hes : e = some s
  · -- work done when the task starts wins: the task has not seen a cancellation by then
    subst hes
    have hbefore : strictlyBefore s c.deadline = true := by
      cases hd : c.deadline with
      | none => rfl
      | some d => simpa [strictlyBefore] using hlt d hd
    simp [taskWaitFrom, Waiter.race, Waiter.sees, hbefore, hcan]
  · rcases hc : c.cancel with _ | _ | tc
    · -- never cancelled: the deadline against the work
      unfold taskWaitFrom
      rw [if_neg hes, hc]
      exact deadlineOrWork_eq_race .task e hc
    · -- cancelled from the start: the check failed
      simp [taskSeesCancel, hc] at hcan
    · unfold taskWaitFrom
      simp only [if_neg hes, hc, Waiter.race, Waiter.lost, Waiter.sees, taskSeesCancel,
        decide_eq_true_eq]
      cases hd : c.deadline with
      | none =>
        cases e with
        | none => simp [notAfter]
        | some t =>
          by_cases htc : tc ≤ t
          · simp [notAfter, strictlyBefore, htc]
          · simp [notAfter, strictlyBefore, deadlineOrWork, htc]
      | some d =>
        cases e with
        | none =>
          by_cases htd : tc ≤ d
          · simp [notAfter, htd]
          · simp [notAfter, deadlineOrWork, htd]
        | some t =>
          -- which of the three comes first: the cancellation, the work, or the deadline
          rcases (by omega : (tc ≤ t ∧ tc ≤ d) ∨ (t < tc ∧ t < d) ∨ (d ≤ t ∧ d < tc)) with
            ⟨h₁, h₂⟩ | ⟨h₁, h₂⟩ | ⟨h₁, h₂⟩
          · simp [notAfter, strictlyBefore, h₁, h₂]
          · simp [notAfter, strictlyBefore, deadlineOrWork_some, h₂, Nat.not_le.mpr h₁,
              Nat.not_le.mpr h₂]
          · simp [notAfter, strictlyBefore, deadlineOrWork_some, h₁, Nat.not_le.mpr h₂,
              Nat.not_lt.mpr h₁]

end Context

namespace Waiter

/-- **A run answers by the rule of its race**, for either waiter, every context, start and
work. -/
theorem wait_eq_ruled (w : Waiter) (c : Context) (s : Nat) (e : Option Nat) :
    w.wait c s e = w.ruled c s e := by
  unfold wait ruled
  cases hck : w.check c s with
  | error f => rfl
  | ok u =>
    cases w with
    | flow => exact Context.waitFrom_eq_race e hck
    | task => exact Context.taskWaitFrom_eq_race e hck

end Waiter

end QueryRelay
