import QueryRelay.Settings
import QueryRelay.Context
import QueryRelay.Decimal.Ieee

/-!
# Retries with exponential backoff

An operation that fails with a retryable failure is tried again after a wait that grows
geometrically with the attempt number: before retry `n` (counted from `0`) the wait is
`initial · max(factor, 1)^n` milliseconds, capped at `max`, in binary64 arithmetic and then
truncated to whole milliseconds (`RetrySettings.baseBackoff`). A factor below one counts as
one, so waits never shrink; a product that is not a number (zero times infinity) counts as the
cap.

A policy with jitter perturbs each wait: the base wait is scaled by a factor drawn at random
from `[1 - jitter, 1 + jitter]` (the jitter clamped to `[0, 1]`). The draw is not the model's to
make, so a run takes the waits it gave as a parameter (`jittered`); with no jitter the wait is
the base wait exactly, whatever the draws (`RetrySettings.backoff`).

`RetrySettings.run` drives an operation: it calls it with attempts `0, 1, …`; a success ends
the run, and so does a failure that is not retryable or that came from the last allowed
attempt. Between attempts it waits under the caller's context, so a cancellation or the
deadline can end the run during a wait with the context's own failure. The operation itself
does not run under the context.
-/

namespace QueryRelay

namespace RetrySettings

/-- The largest exponent the power is taken to. -/
def maxExponent : Nat := Nat.pow 2 31 - 1

/-- The wait before retry `attempt`, in whole milliseconds, without jitter. -/
def baseBackoff (s : RetrySettings) (attempt : Nat) : Nat :=
  let growth := Decimal.powi (Decimal.maxNum s.factor 1.0) (min attempt maxExponent)
  let millis := Decimal.minNum (Decimal.ofNatNearest s.initialBackoffMs * growth)
    (Decimal.ofNatNearest s.maxBackoffMs)
  Decimal.truncSat (Decimal.maxNum millis 0.0) (Nat.pow 2 64 - 1)

/-- Whether waits are taken exactly, without random perturbation: the jitter, clamped to
`[0, 1]`, is zero. -/
def exactWaits (s : RetrySettings) : Bool := s.jitter ≤ 0.0

/-- The wait before retry `attempt`, in whole milliseconds: the base wait when the jitter is
zero, else the perturbed wait the random draw gave, `jittered attempt`. -/
def backoff (s : RetrySettings) (jittered : Nat → Nat) (attempt : Nat) : Nat :=
  if s.exactWaits then s.baseBackoff attempt else jittered attempt

/-- The settings of a policy that never retries. -/
def never : RetrySettings := { maxRetries := 0 }

end RetrySettings

/-- One call of an operation in a run: its attempt number and the instant it was made. -/
structure Call where
  attempt : Nat
  instant : Nat
  deriving DecidableEq, Repr, Inhabited

/-- What a run of an operation did: its calls in order, its result, and when it ended
(`none`: it never ends). -/
structure RunLog (α : Type) where
  calls : List Call
  result : Except Failure α
  finish : Option Nat

namespace RetrySettings

/-- Run an operation from instant `now`, with the jittered waits `jittered`. The operation maps an
attempt number and a start instant to its result and the instant it returns (`none`: never). -/
def run {α : Type} [Inhabited α] (s : RetrySettings) (jittered : Nat → Nat) (ctx : Context)
    (op : Nat → Nat → Except Failure α × Option Nat) (now : Nat) : RunLog α :=
  let rec loop (attempt : Nat) (t : Nat) (calls : List Call) (fuel : Nat) : RunLog α :=
    let calls := calls ++ [⟨attempt, t⟩]
    let (result, finish) := op attempt t
    match finish with
    | none => ⟨calls, result, none⟩
    | some t' =>
      match result with
      | .ok a => ⟨calls, .ok a, some t'⟩
      | .error e =>
        if !e.isRetryable || attempt ≥ s.maxRetries then ⟨calls, .error e, some t'⟩
        else
          match ctx.wait t' (some (t' + s.backoff jittered attempt)) with
          | .stopped t'' f => ⟨calls, .error f, some t''⟩
          | .forever => ⟨calls, .error e, none⟩
          | .done t'' =>
            match fuel with
            | 0 => ⟨calls, .error e, some t''⟩
            | fuel + 1 => loop (attempt + 1) t'' calls fuel
  loop 0 now [] s.maxRetries

end RetrySettings

end QueryRelay
