import QueryRelay.Backend.Hosted
import QueryRelay.Proofs.Retry.Runs

/-!
# What a hosted call does

A hosted client's call runs its prompts under the client's retry policy
(`HostedClient.query`). This file says what such a call does in every environment: whatever
keys are set, whatever the vendor answers and whenever, and whatever the random draws of the
waits between prompts.

* Every failure of a prompt is classified as a fault of the client's provider, whose code and
  retry flag are those of its kind (`classifyPromptError_eq`, `answer_failure`), and so is the
  missing key (`missingKey_isFaultOf`).
* So a call fails only with the context's own failure or with such a fault
  (`promptRun_failure`), whatever the vendor did; and it ends no earlier than it started
  (`promptRun_le_finish`).
* Without a key a call sends no prompt and leaves the environment as it was: it fails where it
  starts, with the context's failure if the context is done then and with the missing key
  otherwise (`query_of_not_hasKey`). That is every call in the gateway's own runs.
-/

namespace QueryRelay

/-- `f` is a classified fault of provider `p`: its code and retry flag are those of its kind. -/
def Failure.IsFaultOf (f : Failure) (p : Provider) : Prop :=
  ∃ kind message, f = .provider (ProviderFault.classify (some p) kind message)

/-! ## Classifying failures -/

/-- A vendor's message is classified by kind, under the provider, with the message kept. -/
theorem classifyMessage_eq (p : Provider) (msg : String) :
    ∃ kind, classifyMessage p msg = .classify (some p) kind msg := by
  unfold classifyMessage
  split
  · exact ⟨_, rfl⟩
  · exact ⟨_, rfl⟩

/-- **Every failed prompt is a fault of its provider.** Whatever the failure, its fault names
the provider and carries the code and the retry flag of its kind. -/
theorem classifyPromptError_eq (p : Provider) (e : PromptError) :
    ∃ kind message, classifyPromptError p e = .classify (some p) kind message := by
  cases e with
  | vendor m =>
    obtain ⟨kind, h⟩ := classifyMessage_eq p m
    exact ⟨kind, m, h⟩
  | http m | json m | response m | completion m | other m => exact ⟨_, m, rfl⟩

namespace HostedClient

/-- The missing key is a `missing-credential` fault of the provider. -/
theorem missingKey_isFaultOf (c : HostedClient) : c.missingKey.IsFaultOf c.provider :=
  ⟨.missingCredential, _, rfl⟩

/-- What a prompt makes of the vendor's answer fails only with a fault of the provider. -/
theorem answer_failure (c : HostedClient) {r : Except PromptError String} {f : Failure}
    (h : c.answer r = .error f) : f.IsFaultOf c.provider := by
  unfold answer at h
  split at h
  · rename_i e
    obtain rfl := Except.error.inj h
    obtain ⟨kind, message, he⟩ := classifyPromptError_eq c.provider e
    exact ⟨kind, message, by rw [he]⟩
  · rename_i text
    by_cases hb : Text.isBlankText text = true
    · rw [if_pos hb] at h
      obtain rfl := Except.error.inj h
      exact ⟨_, _, rfl⟩
    · rw [if_neg hb] at h
      cases h

/-- The failure of a prompt without a key started at `s`: the context's if it is done then, and
the missing key otherwise. -/
def keylessFailure (c : HostedClient) (ctx : Context) (s : Nat) : Failure :=
  match ctx.check s with
  | .error f => f
  | .ok () => c.missingKey

/-- Neither failure of a prompt without a key is worth a retry. -/
theorem keylessFailure_isRetryable (c : HostedClient) (ctx : Context) (s : Nat) :
    (c.keylessFailure ctx s).isRetryable = false := by
  unfold keylessFailure
  split
  · rename_i f hck
    exact Failure.isRetryable_eq_false_of_isCancellation (Context.doneBy_of_check hck).isCancellation
  · rfl

/-! ## One prompt -/

section Prompt

variable (c : HostedClient) (keyed : Bool) (r : VendorReply) (ctx : Context) (t : Nat)

/-- What a prompt gives when it runs to its end fails only with a fault of the provider. -/
theorem promptReply_failure {f : Failure} (h : (c.promptReply keyed r).1 = .error f) :
    f.IsFaultOf c.provider := by
  unfold promptReply at h
  split at h
  · exact c.answer_failure h
  · obtain rfl := Except.error.inj h
    exact c.missingKey_isFaultOf

/-- A prompt fails only with the context's own failure or with a fault of the provider. -/
theorem prompt_failure {f : Failure} (h : (c.prompt keyed r ctx t).1 = .error f) :
    f.isCancellation = true ∨ f.IsFaultOf c.provider := by
  unfold prompt at h
  split at h
  · rename_i u g hw
    obtain rfl := Except.error.inj h
    exact .inl (Context.doneBy_of_wait hw).isCancellation
  · exact .inr (c.promptReply_failure keyed r h)
  · exact .inr (c.promptReply_failure keyed r h)

/-- A prompt returns no earlier than it starts. -/
theorem prompt_le_finish {u : Nat} (h : (c.prompt keyed r ctx t).2 = some u) : t ≤ u := by
  unfold prompt at h
  split at h
  · rename_i v g hw
    obtain rfl := Option.some.inj h
    exact Context.le_of_wait_stopped hw
  · cases h
  · rename_i v hw
    obtain rfl := Option.some.inj h
    -- the work was due its delay after the start
    obtain ⟨d, -, rfl⟩ := Option.map_eq_some_iff.1 (Context.eq_of_wait_done hw)
    exact Nat.le_add_right t d

end Prompt

/-! ## A call -/

section Query

variable (c : HostedClient) (e : HostedEnv) (ctx : Context) (s : Nat)

@[simp] theorem query_fst (text : String) (modelVersion : Option String) :
    (c.query e ctx s text modelVersion).1 = c.promptRun e ctx s := rfl

theorem promptRun_runs :
    c.retry.Runs (c.retry.backoff e.jittered) ctx
      (fun i t => c.prompt (c.hasKey e) (e.replyAt i) ctx t) 0 s (c.promptRun e ctx s) :=
  RetrySettings.runs_run _ _ _ _ _

/-- **A call fails only with the context's failure or a fault of its provider**, whatever the
vendor answered: a failed run failed with one of its prompts' failures or with the context's. -/
theorem promptRun_failure {f : Failure} (h : (c.promptRun e ctx s).result = .error f) :
    f.isCancellation = true ∨ f.IsFaultOf c.provider := by
  rcases (c.promptRun_runs e ctx s).failure h with ⟨j, u, hj⟩ | ⟨v, hv⟩
  · exact c.prompt_failure _ _ ctx u hj
  · exact .inl hv.isCancellation

/-- A call ends no earlier than it starts. -/
theorem promptRun_le_finish {u : Nat} (h : (c.promptRun e ctx s).finish = some u) : s ≤ u :=
  (c.promptRun_runs e ctx s).le_finish (fun _ t _ hv => c.prompt_le_finish _ _ ctx t hv) h

/-- Without a key, a prompt fails where it starts: with the context's failure if the context is
done then, and with the missing key otherwise. -/
theorem prompt_of_not_keyed (r : VendorReply) :
    c.prompt false r ctx s = (.error (c.keylessFailure ctx s), some s) := by
  unfold prompt promptReply keylessFailure
  simp only [Bool.false_eq_true, if_false, Option.map_some, Nat.add_zero]
  rcases hck : ctx.check s with f | ⟨⟩
  · have hw : ctx.wait s (some s) = .stopped s f := by
      unfold Context.wait
      rw [hck]
    rw [hw]
  · rw [Context.wait_of_runsUntil (Nat.le_refl s) (Context.runsUntil_of_check hck)]

/-- **A call without a key.** It sends no prompt and leaves the environment as it was; it fails
where it starts, with the context's failure if the context is done then and with the missing key
otherwise. -/
theorem query_of_not_hasKey (h : c.hasKey e = false) (text : String)
    (modelVersion : Option String) :
    c.query e ctx s text modelVersion =
      (⟨[⟨0, s⟩], .error (c.keylessFailure ctx s), some s⟩, e) := by
  -- neither failure is worth a retry, so the first prompt is the only one
  have hop : c.prompt (c.hasKey e) (e.replyAt 0) ctx s =
      (.error (c.keylessFailure ctx s), some s) := by
    rw [h]
    exact c.prompt_of_not_keyed ctx s (e.replyAt 0)
  have hrun := (c.promptRun_runs e ctx s).eq_of_final hop (c.keylessFailure_isRetryable ctx s)
  unfold query promptsSent
  rw [hrun, h]
  simp [HostedEnv.afterPrompts]

end Query

end HostedClient

end QueryRelay
