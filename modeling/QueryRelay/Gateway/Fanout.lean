import QueryRelay.Gateway.Dispatch
import QueryRelay.Query.Outcome

/-!
# Fanning one query out

A fan-out sends one query to several providers at once under a shared deadline, the earlier
of the caller's deadline and the fan-out timeout from the start. It never fails as a whole:
every target gets exactly one outcome.

* The targets are the providers asked for, or, when none are, the providers up after a
  refresh under the shared deadline (the map as it stands if that refresh is cut short). They
  are taken in provider order, each once.
* A target without a client gets a `missing-credential` error outcome.
* Every other target is called in a task of its own, started when the targets are known, under
  the shared deadline and the caller's cancellation (`Waiter.task`). Its success becomes a
  response with the task's latency and the request's id, and is not stored; a failure becomes
  its outcome (`Outcome.ofFailure`); a crash becomes the error outcome "unit panicked".
* Successes are recorded with their latency and failures (crashes included) as failures,
  except the context's own.

The fan-out ends when its last task does; its latency runs from its start. The query is sent
as it is, without the checks of a single query.
-/

namespace QueryRelay

namespace Gateway

/-- The outcome of a target without a client. -/
def unconfigured (p : Provider) : Outcome :=
  Outcome.ofFailure (.provider (ProviderFault.missingCredential p "provider is not configured"))

/-- Run one target's task from `s` under the shared context: its outcome and end instant, with
the call recorded. -/
def runUnit (group : Context) (req : Request) (s : Nat) (p : Provider) (c : Backend) :
    GatewayM (Outcome × Nat) := do
  let (ending, c) := c.call .task group s req
  modifyRegistry (·.setClient p c)
  match ending with
  | .never => throw .stall
  | .crashed t _ =>
    modifyRegistry (·.recordFailure p)
    return (.error "unit panicked" none none, t)
  | .answered t (.ok comp) =>
    modifyRegistry (·.recordSuccess p (t - s))
    match Response.ofCompletion p comp (t - s) with
    | .ok r => return (.success { r with requestId := req.requestId }, t)
    | .error crash => throw (.crash crash)
  | .answered t (.error e) =>
    if !e.isCancellation then modifyRegistry (·.recordFailure p)
    return (Outcome.ofFailure e, t)

/-- The targets of a fan-out under the shared context: the providers asked for, or, when none
are, the providers up after a refresh under the shared context (the map as it stands if that
refresh is cut short). -/
def fanoutTargets (group : Context) (providers : List Provider) : GatewayM (List Provider) := do
  if providers.isEmpty then
    match ← availableWithin group with
    | .ok up => pure up
    | .error _ => return (← get).router.available
  else pure providers

/-- Run the units of `targets` from `s`, one after the other in virtual time but all started
at `s`, adding each outcome to `results` and moving `finish` to the last end instant. -/
def runTargets (group : Context) (req : Request) (s : Nat) :
    List Provider → List (Provider × Outcome) → Nat →
      GatewayM (List (Provider × Outcome) × Nat)
  | [], results, finish => pure (results, finish)
  | p :: ps, results, finish => do
    match (← get).registry.client? p with
    | none => runTargets group req s ps (insertOutcome p (unconfigured p) results) finish
    | some c =>
      let (o, t) ← runUnit group req s p c
      runTargets group req s ps (insertOutcome p o results) (max finish t)

/-- Fan a query out to `providers` (or to the providers up, when empty) under a context, with a
timeout (the gateway's default when none is given). -/
def handleFanout (ctx : Context) (req : Request) (providers : List Provider)
    (timeout : Option Nat) : GatewayM FanoutReport := do
  let started ← now
  let group := ctx.narrowed started (timeout.getD (← get).fanoutTimeoutMs)
  let targets ← fanoutTargets group providers
  let s ← now
  let (results, finish) ← runTargets group req s (Provider.sortDedup targets) [] s
  advanceTo finish
  return { requestId := req.requestId, results, latencyMs := finish - started }

end Gateway

end QueryRelay
