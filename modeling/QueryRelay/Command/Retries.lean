import QueryRelay.Command.Spec
import QueryRelay.Retry

/-!
# Commands on retries

`backoff` lists the waits a retry policy takes before given attempts; `retry_run` drives a
scripted operation through a policy under a context and reports every call.
-/

namespace QueryRelay

namespace Command

/-- The waits of a policy before the given attempts. -/
def backoffCommand (input : Json) : Reply := do
  let policy ← optString input "policy"
  let s ← match policy with
    | some "none" => pure RetrySettings.never
    | _ => decoded (Settings.decodeRetry ((arg input "config").getD .null))
  let attempts ← (← optList input "attempts").mapM (fun j => match j with
    | .num (.unsigned n) => pure n
    | _ => bad "attempts must be unsigned integers")
  let rows := attempts.map (fun a =>
    let base := s.baseBackoff a
    Json.object ([("attempt", Json.nat a), ("base_ms", Json.nat base)] ++
      (if s.exactWaits then [("backoff_ms", Json.nat base)] else [])))
  pure (Json.object [("max_retries", Json.nat s.maxRetries), ("backoffs", Json.arr rows)])

/-- One scripted outcome of an operation: a value or a failure, after a delay. -/
structure ScriptStep where
  outcome : Except Failure Json
  delayMs : Nat

/-- Read a scripted outcome. -/
def readScriptStep (j : Json) : Except Halt ScriptStep := do
  let delay := (← optNat j "delay_ms").getD 0
  match arg j "err" with
  | some spec => pure ⟨.error (← readFailure spec), delay⟩
  | none => pure ⟨.ok ((j.field? "ok").getD .null), delay⟩

/-- Drive a scripted operation through a retry policy. A jittered wait is taken at its base
length, as for a draw of no perturbation. -/
def retryRunCommand (input : Json) : Reply := do
  let s ← decoded (Settings.decodeRetry ((arg input "config").getD .null))
  let steps ← (← optList input "steps").mapM readScriptStep
  let ctx ← readContext (arg input "ctx") 0
  let op (attempt t : Nat) : Except Failure Json × Option Nat :=
    match steps[min attempt (steps.length - 1)]? with
    | some st => (st.outcome, some (t + st.delayMs))
    | none => (.ok .null, some t)
  let log := s.run s.baseBackoff ctx op 0
  let result := match log.result with
    | .ok v => Json.object [("ok", v)]
    | .error e => failureAnswer e
  pure (Json.object [
    ("result", result),
    ("calls", Json.arr (log.calls.map (fun c =>
      Json.object [("attempt", Json.nat c.attempt), ("at_ms", Json.nat c.instant)]))),
    ("elapsed_ms", Json.opt Json.nat log.finish)])

end Command

end QueryRelay
