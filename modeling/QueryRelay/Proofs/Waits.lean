import QueryRelay.Context

/-!
# How a wait under a context ends

The request's own flow waits under its context for work that completes at a known instant: a
backoff before the next attempt, a refresh, a provider call. This file says, for every context,
when such a wait runs to its end and what it ends with otherwise.

* The context *lets the flow run until* `w` (`Context.RunsUntil`) when it is not cancelled from
  the start, no cancellation falls due before `w`, and the deadline, if any, lies after `w`. A
  deadline at `w` itself does not let the flow finish: at one instant the deadline comes before
  the work.
* A wait from `s` for work due at `w ≥ s` runs to its end exactly when the context lets the flow
  run until `w` (`Context.wait_eq_done_iff`).
* A wait the context stops ends between `s` and `w`, with the context's own failure, which was
  due by then (`Context.DoneBy`, `Context.wait_stopped`).
-/

namespace QueryRelay

namespace Context

/-- `e` is the context's own failure and was due by `t`: a cancellation that fell due by
then, or a deadline reached by then. -/
def DoneBy (c : Context) (t : Nat) (e : Failure) : Prop :=
  (e = .cancelled ∧ (c.cancel = .before ∨ ∃ tc, c.cancel = .at tc ∧ tc ≤ t)) ∨
    (e = .deadlineExceeded ∧ ∃ d, c.deadline = some d ∧ d ≤ t)

/-- The context lets the flow run until `w`: it was not cancelled from the start, no
cancellation falls due before `w`, and the deadline, if any, lies after `w`. -/
def RunsUntil (c : Context) (w : Nat) : Prop :=
  c.cancel ≠ .before ∧ (∀ tc, c.cancel = .at tc → w ≤ tc) ∧ ∀ d, c.deadline = some d → w < d

/-- The context's own failures are cancellations. -/
theorem DoneBy.isCancellation {c : Context} {t : Nat} {e : Failure} (h : c.DoneBy t e) :
    e.isCancellation = true := by
  rcases h with ⟨rfl, -⟩ | ⟨rfl, -⟩ <;> rfl

theorem doneBy_of_check {c : Context} {t : Nat} {e : Failure} (h : c.check t = .error e) :
    c.DoneBy t e := by
  unfold check at h
  by_cases hc : c.cancelledAt t = true
  · rw [if_pos hc] at h
    cases h
    refine .inl ⟨rfl, ?_⟩
    unfold cancelledAt at hc
    split at hc
    · cases hc
    · exact .inl ‹_›
    · rename_i tc htc
      exact .inr ⟨tc, htc, Nat.le_of_lt (by simpa using hc)⟩
  · rw [if_neg hc] at h
    by_cases hx : c.expiredAt t = true
    · rw [if_pos hx] at h
      cases h
      unfold expiredAt at hx
      split at hx
      · rename_i d hd
        exact .inr ⟨rfl, d, hd, by simpa using hx⟩
      · cases hx
    · rw [if_neg hx] at h
      cases h

/-- A wait that the deadline ends stops at the deadline. -/
theorem deadline_of_deadlineOrWork {d w : Option Nat} {t : Nat} {f : Failure}
    (h : deadlineOrWork d w = .stopped t f) : f = .deadlineExceeded ∧ d = some t := by
  unfold deadlineOrWork at h
  split at h
  · split at h
    · cases h
      exact ⟨rfl, rfl⟩
    · cases h
  · cases h
    exact ⟨rfl, rfl⟩
  · cases h
  · cases h

theorem doneBy_of_waitFrom {c : Context} {s t : Nat} {w : Option Nat} {f : Failure}
    (h : c.waitFrom s w = .stopped t f) : c.DoneBy t f := by
  have hdl : deadlineOrWork c.deadline w = .stopped t f → c.DoneBy t f := by
    intro hd
    obtain ⟨rfl, hdt⟩ := deadline_of_deadlineOrWork hd
    exact .inr ⟨rfl, t, hdt, Nat.le_refl t⟩
  unfold waitFrom at h
  split at h
  · rename_i tc htc
    split at h
    · cases h
      exact .inl ⟨rfl, .inr ⟨_, htc, Nat.le_refl _⟩⟩
    · exact hdl h
  · exact hdl h

theorem deadlineOrWork_some (d w : Nat) :
    deadlineOrWork (some d) (some w) =
      if d ≤ w then .stopped d .deadlineExceeded else .done w := rfl

/-- A wait that the deadline ends stops no later than the work would have ended. -/
theorem le_of_deadlineOrWork {d : Option Nat} {w v : Nat} {f : Failure}
    (h : deadlineOrWork d (some w) = .stopped v f) : v ≤ w := by
  cases d with
  | none => cases h
  | some d =>
    rw [deadlineOrWork_some] at h
    by_cases hdw : d ≤ w
    · rw [if_pos hdw] at h
      cases h
      exact hdw
    · rw [if_neg hdw] at h
      cases h

/-- A context that lets the flow run until `w` passes its check at every instant up to `w`. -/
theorem check_of_runsUntil {c : Context} {s w : Nat} (hsw : s ≤ w) (h : c.RunsUntil w) :
    c.check s = .ok () := by
  obtain ⟨hbefore, hcancel, hdeadline⟩ := h
  have hc : c.cancelledAt s = false := by
    unfold cancelledAt
    split
    · rfl
    · rename_i hb
      exact absurd hb hbefore
    · rename_i tc htc
      have := hcancel tc htc
      simp only [decide_eq_false_iff_not, Nat.not_lt]
      omega
  have hx : c.expiredAt s = false := by
    unfold expiredAt
    split
    · rename_i d hd
      have := hdeadline d hd
      simp only [decide_eq_false_iff_not, Nat.not_le]
      omega
    · rfl
  unfold check
  rw [hc, hx]
  rfl

/-- **A wait the context lets run ends with its work.** -/
theorem wait_of_runsUntil {c : Context} {s w : Nat} (hsw : s ≤ w) (h : c.RunsUntil w) :
    c.wait s (some w) = .done w := by
  have hwork : deadlineOrWork c.deadline (some w) = .done w := by
    cases hd : c.deadline with
    | none => rfl
    | some d =>
      have hwd : w < d := h.2.2 d hd
      rw [deadlineOrWork_some, if_neg (Nat.not_le.mpr hwd)]
  unfold wait
  rw [check_of_runsUntil hsw h]
  dsimp only
  unfold waitFrom
  split
  · rename_i tc htc
    have hw : w ≤ tc := h.2.1 tc htc
    have hcut : (decide (s ≤ tc) && strictlyBefore tc (some w) &&
        strictlyBefore tc c.deadline) = false := by
      simp only [strictlyBefore, Bool.and_eq_false_iff, decide_eq_false_iff_not, Nat.not_lt]
      exact .inl (.inr hw)
    rw [hcut, if_neg Bool.false_ne_true]
    exact hwork
  · exact hwork

/-- **A wait that runs to its end.** It ends with its work, and the context let the flow run
until then. -/
theorem wait_done {c : Context} {s w t : Nat} (h : c.wait s (some w) = .done t) :
    t = w ∧ c.RunsUntil w := by
  unfold wait at h
  split at h
  · cases h
  · rename_i hck
    have hnc : c.cancelledAt s = false := by
      unfold check at hck
      split at hck
      · cases hck
      · simp_all
    have hwork : deadlineOrWork c.deadline (some w) = .done t := by
      unfold waitFrom at h
      split at h
      · split at h
        · cases h
        · exact h
      · exact h
    have hdl : t = w ∧ ∀ d, c.deadline = some d → w < d := by
      cases hd : c.deadline with
      | none =>
        rw [hd] at hwork
        cases hwork
        exact ⟨rfl, nofun⟩
      | some d =>
        rw [hd, deadlineOrWork_some] at hwork
        by_cases hdw : d ≤ w
        · rw [if_pos hdw] at hwork
          cases hwork
        · rw [if_neg hdw] at hwork
          cases hwork
          exact ⟨rfl, fun d' hd' => by cases hd'; omega⟩
    refine ⟨hdl.1, fun hb => ?_, fun tc htc => ?_, hdl.2⟩
    · unfold cancelledAt at hnc
      rw [hb] at hnc
      cases hnc
    · have hs : s ≤ tc := by
        unfold cancelledAt at hnc
        rw [htc] at hnc
        simpa using hnc
      refine Nat.le_of_not_lt fun hlt => ?_
      -- a cancellation due inside the wait, before the deadline, would have stopped it
      have hbefore : strictlyBefore tc c.deadline = true := by
        unfold strictlyBefore
        split
        · rename_i d hd
          have := hdl.2 d hd
          simp only [decide_eq_true_eq]
          omega
        · rfl
      have hcut : (decide (s ≤ tc) && strictlyBefore tc (some w) &&
          strictlyBefore tc c.deadline) = true := by
        rw [hbefore, Bool.and_true]
        simp only [strictlyBefore, Bool.and_eq_true, decide_eq_true_eq]
        exact ⟨hs, hlt⟩
      unfold waitFrom at h
      simp only [htc] at h
      rw [if_pos hcut] at h
      cases h

/-- A wait for work due at a known instant always ends. -/
theorem wait_ne_forever (c : Context) (s w : Nat) : c.wait s (some w) ≠ .forever := by
  have hdl : deadlineOrWork c.deadline (some w) ≠ .forever := by
    cases c.deadline with
    | none => nofun
    | some d =>
      rw [deadlineOrWork_some]
      split <;> nofun
  unfold wait
  split
  · nofun
  · unfold waitFrom
    split
    · split
      · nofun
      · exact hdl
    · exact hdl

/-- **A wait the context stops.** It stops between its start and its work's end, with the
context's own failure, due by then; and the context did not let the flow run until the end. -/
theorem wait_stopped {c : Context} {s w v : Nat} {f : Failure} (hsw : s ≤ w)
    (h : c.wait s (some w) = .stopped v f) :
    ¬ c.RunsUntil w ∧ s ≤ v ∧ v ≤ w ∧ c.DoneBy v f := by
  have hrun : ¬ c.RunsUntil w := fun hrun => by
    rw [wait_of_runsUntil hsw hrun] at h
    cases h
  unfold wait at h
  split at h
  · rename_i e hck
    cases h
    exact ⟨hrun, Nat.le_refl _, hsw, doneBy_of_check hck⟩
  · rename_i hck
    -- the check at `s` passed, so the deadline, if any, lies after `s`
    have hnx : ∀ d, c.deadline = some d → s < d := by
      intro d hd
      unfold check at hck
      split at hck
      · cases hck
      · split at hck
        · cases hck
        · rename_i hx
          unfold expiredAt at hx
          rw [hd] at hx
          simpa using hx
    have hdl : deadlineOrWork c.deadline (some w) = .stopped v f → s ≤ v ∧ v ≤ w := by
      intro hd
      obtain ⟨-, hdv⟩ := deadline_of_deadlineOrWork hd
      exact ⟨Nat.le_of_lt (hnx v hdv), le_of_deadlineOrWork hd⟩
    have hbounds : s ≤ v ∧ v ≤ w := by
      unfold waitFrom at h
      split at h
      · split at h
        · rename_i hcut
          cases h
          simp only [strictlyBefore, Bool.and_eq_true, decide_eq_true_eq] at hcut
          omega
        · exact hdl h
      · exact hdl h
    exact ⟨hrun, hbounds.1, hbounds.2, doneBy_of_waitFrom h⟩

/-- A wait stops only with the context's own failure, due by the instant it stops. -/
theorem doneBy_of_wait {c : Context} {s v : Nat} {e : Option Nat} {f : Failure}
    (h : c.wait s e = .stopped v f) : c.DoneBy v f := by
  unfold wait at h
  split at h
  · rename_i g hck
    cases h
    exact doneBy_of_check hck
  · exact doneBy_of_waitFrom h

/-- A context that passes its check at `s` lets the flow run until `s`. -/
theorem runsUntil_of_check {c : Context} {s : Nat} (h : c.check s = .ok ()) : c.RunsUntil s := by
  unfold check at h
  split at h
  · cases h
  · rename_i hc
    split at h
    · cases h
    · rename_i hx
      refine ⟨fun hb => hc (by simp [cancelledAt, hb]), fun tc htc => ?_, fun d hd => ?_⟩
      · have hnot : ¬ tc < s := fun hlt => hc (by simp [cancelledAt, htc, hlt])
        omega
      · have hnot : ¬ d ≤ s := fun hle => hx (by simp [expiredAt, hd, hle])
        omega

/-- A wait that runs to its end ends at its work's instant. -/
theorem eq_of_wait_done {c : Context} {s u : Nat} {e : Option Nat} (h : c.wait s e = .done u) :
    e = some u := by
  have hdw : ∀ d, deadlineOrWork d e = .done u → e = some u := by
    intro d hd
    rcases d with _ | d <;> rcases e with _ | w
    · cases hd
    · cases hd
      rfl
    · cases hd
    · rw [deadlineOrWork_some] at hd
      split at hd
      · cases hd
      · cases hd
        rfl
  unfold wait at h
  split at h
  · cases h
  · unfold waitFrom at h
    split at h
    · split at h
      · cases h
      · exact hdw _ h
    · exact hdw _ h

/-- A wait the context stops, whatever its work, stops no earlier than it started. -/
theorem le_of_wait_stopped {c : Context} {s v : Nat} {e : Option Nat} {f : Failure}
    (h : c.wait s e = .stopped v f) : s ≤ v := by
  unfold wait at h
  split at h
  · cases h
    exact Nat.le_refl s
  · rename_i hck
    -- a deadline the flow stops at lies after the check it passed
    have hdl : deadlineOrWork c.deadline e = .stopped v f → s ≤ v := by
      intro hd
      obtain ⟨-, hd⟩ := deadline_of_deadlineOrWork hd
      have hx : c.expiredAt s = false := by
        unfold check at hck
        split at hck
        · cases hck
        · split at hck
          · cases hck
          · simpa using ‹¬c.expiredAt s = true›
      simp only [expiredAt, hd, decide_eq_false_iff_not, Nat.not_le] at hx
      exact Nat.le_of_lt hx
    unfold waitFrom at h
    split at h
    · split at h
      · rename_i hcut
        cases h
        simp only [Bool.and_eq_true, decide_eq_true_eq] at hcut
        exact hcut.1.1
      · exact hdl h
    · exact hdl h

/-- **When a wait runs to its end.** A wait from `s` for work due at `w ≥ s` ends with the work
exactly when the context lets the flow run until `w`. -/
theorem wait_eq_done_iff {c : Context} {s w : Nat} (hsw : s ≤ w) :
    c.wait s (some w) = .done w ↔ c.RunsUntil w :=
  ⟨fun h => (wait_done h).2, wait_of_runsUntil hsw⟩

end Context

end QueryRelay
