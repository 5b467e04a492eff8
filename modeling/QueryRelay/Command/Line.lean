import QueryRelay.Command.Values
import QueryRelay.Command.Retries
import QueryRelay.Command.Limits
import QueryRelay.Command.Setup
import QueryRelay.Command.Scenario
import QueryRelay.Query.FanoutRequest
import QueryRelay.Json.Read
import QueryRelay.Json.Write

/-!
# One line in, one line out

The command interface reads one JSON object per line, runs the command its `op` field names,
and writes the answer as one line of compact JSON.
-/

namespace QueryRelay

namespace Command

/-- Read values of the gateway's types and write them back, with what each type reports. -/
def serdeCommand (input : Json) : Reply := do
  let ty ← needString input "type"
  let v := (arg input "value").getD .null
  match ty with
  | "provider" => return (← decoded (Provider.decode v)).toJson
  | "task_type" => return (← decoded (TaskType.decode v)).toJson
  | "completion" => return (← decoded (Completion.decode v)).toJson
  | "response" => return (← decoded (Response.decode v)).toJson
  | "error_kind" => do
    let k ← decoded (FailureKind.decode v)
    return Json.object [("json", k.toJson), ("as_str", Json.str k.wireName),
      ("code", Json.nat k.code), ("default_retryable", Json.bool k.retryableByDefault)]
  | "outcome" => do
    let o ← decoded (Outcome.decode v)
    return Json.object [("json", o.toJson), ("is_success", Json.bool o.isSuccess)]
  | "parallel_response" => do
    let r ← decoded (FanoutReport.decode v)
    return Json.object [("json", r.toJson), ("success_count", Json.nat r.successCount)]
  | "provider_error" => do
    let f ← decoded (ProviderFault.decode v)
    return Json.object [("json", f.toJson), ("display", Json.str f.describe)]
  | "route_reason" => return (← decoded (RouteReason.decode v)).toJson
  | "route_decision" => return (← decoded (RouteDecision.decode v)).toJson
  | "snapshot" => do
    let s ← decoded (Snapshot.decode v)
    return Json.object [("json", s.toJson), ("available", .arr (s.available.map Provider.toJson)),
      ("is_available", Json.object (Provider.all.map (fun p => (p.wireName, .bool (s.isAvailable p)))))]
  | "parallel_request" => return (← decoded (FanoutRequest.decode v)).toJson
  | other => bad s!"unknown type {other}"

/-- Run the command an input names. -/
def run (input : Json) : Reply := do
  let op ← needString input "op"
  match op with
  | "provider_from_str" => providerFromText input
  | "task_type_from_str" => taskTypeFromText input
  | "request" => requestCommand input
  | "from_completion" => fromCompletion input
  | "error" => describeFailure input
  | "serde" => serdeCommand input
  | "backoff" => backoffCommand input
  | "retry_run" => retryRunCommand input
  | "token_bucket" => tokenBucketCommand input
  | "rate_limiter" => rateLimiterCommand input
  | "client_id" => clientIdCommand input
  | "app_config" => appConfigCommand input
  | "rig_client" => hostedClientCommand input
  | "scenario" => scenarioCommand input
  | other => bad s!"unknown op {other}"

/-- The answer line for an input line. -/
def answerLine (line : String) : String :=
  match Json.read line with
  | .ok input => Json.render (run input).answer
  | .error e => Json.render (namedAnswer "BadInput" (e.describe line))

/-- Whether a line holds only blanks and is skipped. -/
def isBlankLine (line : String) : Bool := line.all (fun c => c = ' ' || c = '\t' || c = '\r' || c = '\n')

end Command

end QueryRelay
