import QueryRelay.Command.Spec
import QueryRelay.Query.Outcome
import QueryRelay.Http.ErrorBody

/-!
# Commands on single values

Reading names from free text, checking and keying requests, reading values of the gateway's
types from JSON and writing them back, building a response from a completion, and describing
a failure every way the gateway shows one.
-/

namespace QueryRelay

namespace Command

/-- The answer for a name read from free text. -/
def nameAnswer (wire : String) : Json :=
  Json.object [("value", Json.str wire), ("display", Json.str wire), ("json", Json.str wire)]

/-- Read a provider from free text. -/
def providerFromText (input : Json) : Reply := do
  let s ← needString input "s"
  match Provider.parse s with
  | .ok p => pure (nameAnswer p.wireName)
  | .error n => .error (.failure (.invalidRequest s!"unknown provider '{n}'"))

/-- Read a task type from free text. -/
def taskTypeFromText (input : Json) : Reply := do
  let s ← needString input "s"
  match TaskType.parse s with
  | .ok t => pure (nameAnswer t.wireName)
  | .error n => .error (.failure (.invalidRequest s!"unknown task type '{n}'"))

/-- Read a request, write it back, key it and check it. -/
def requestCommand (input : Json) : Reply := do
  let maxLen := (← optNat input "max_len").getD 8000
  let r ← decoded (Request.decode ((arg input "request").getD .null))
  let check := match r.validate maxLen with
    | .ok () => Json.null
    | .error e => failureAnswer e
  pure (Json.object [("normalized", r.toJson), ("cache_key", Json.str r.cacheKey),
    ("validate", check)])

/-- Build a response from a completion. -/
def fromCompletion (input : Json) : Reply := do
  let p ← match arg input "provider" with
    | some j => needProvider j
    | none => bad "missing provider"
  let c ← decoded (Completion.decode ((arg input "completion").getD .null))
  let latency := (← optNat input "latency_ms").getD 0
  let r ← crashing (Response.ofCompletion p c latency)
  pure r.toJson

/-- Every view of a failure. -/
def describeFailure (input : Json) : Reply := do
  let e ← match arg input "error" with
    | some spec => readFailure spec
    | none => bad "missing error"
  let requestId ← optString input "request_id"
  pure (Json.object [
    ("variant", Json.str e.className),
    ("display", Json.str e.message),
    ("kind", Json.opt FailureKind.toJson e.kind?),
    ("retryable", Json.bool e.isRetryable),
    ("cancellation", Json.bool e.isCancellation),
    ("provider_error", Json.opt ProviderFault.toJson e.fault?),
    ("provider_error_display", Json.opt (fun f => Json.str f.describe) e.fault?),
    ("http_status", Json.nat e.httpStatus),
    ("error_code", Json.str e.apiCode),
    ("outcome", (Outcome.ofFailure e).toJson),
    ("api_response", Json.object [("status", Json.nat e.httpStatus),
      ("body", e.errorBody requestId)])])

end Command

end QueryRelay
