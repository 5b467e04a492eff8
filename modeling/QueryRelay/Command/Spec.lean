import QueryRelay.Command.Answer
import QueryRelay.Context

/-!
# Failures described in command inputs

Commands describe a failure by its class under `type` (`provider` when absent) and its data.
A provider fault gives its kind, and optionally the provider, the message (empty when absent)
and the retry flag (the kind's default when absent). A provider that answered with nothing
and gave no message carries the standard text "provider returned no content".
-/

namespace QueryRelay

namespace Command

/-- A classified fault from its description. -/
def readFault (spec : Json) : Except Halt ProviderFault := do
  let kindName ← needString spec "kind"
  let kind ← match FailureKind.ofWireName? kindName with
    | some k => pure k
    | none => bad s!"unknown error kind {kindName}"
  let provider ← optProvider spec "provider"
  let message ← optString spec "message"
  let retryable ← optBool spec "retryable"
  let base := match kind, provider, message with
    | .emptyResponse, some p, none => ProviderFault.emptyResponse p
    | _, _, m => ProviderFault.classify provider kind (m.getD "")
  pure (match retryable with
    | some r => base.withRetryable r
    | none => base)

/-- A failure from its description. -/
def readFailure (spec : Json) : Except Halt Failure := do
  let kind ← optString spec "type"
  let message := (← optString spec "message").getD ""
  match kind.getD "provider" with
  | "provider" => Failure.provider <$> readFault spec
  | "all_providers_failed" => do
    let attempted ← (← optList spec "attempted").mapM needProvider
    let source ← match arg spec "source" with
      | some s => readFault s
      | none => bad "all_providers_failed needs a source"
    pure (.exhausted attempted source)
  | "cancelled" => pure .cancelled
  | "deadline_exceeded" => pure .deadlineExceeded
  | "rate_limited" => pure .rateLimited
  | "serialization" => pure (.serialization "EOF while parsing a value at line 1 column 0")
  | "invalid_request" => pure (.invalidRequest message)
  | "gateway" => pure (.gateway message)
  | "cache" => pure (.cache message)
  | "config" => pure (.config message)
  | "internal" => pure (.internal message)
  | "other" => pure (.other message)
  | other => bad s!"unknown error type {other}"

/-- A context from its description, made at instant `now`: a timeout from `now`, a cancellation
before the start, or a cancellation some milliseconds after `now`. -/
def readContext (spec : Option Json) (now : Nat) : Except Halt Context := do
  match spec with
  | none => pure {}
  | some j =>
    let timeout ← optNat j "timeout_ms"
    let cancelled := (← optBool j "cancelled").getD false
    let after ← optNat j "cancel_after_ms"
    let cancel : Cancellation :=
      if cancelled then .before
      else match after with
        | some a => .at (now + a)
        | none => .never
    pure { cancel, deadline := timeout.map (now + ·) }

end Command

end QueryRelay
