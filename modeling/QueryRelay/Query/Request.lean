import QueryRelay.Provider
import QueryRelay.TaskType
import QueryRelay.Failure
import QueryRelay.Digest.Sha256

/-!
# Requests

A request is a query text with optional hints: the provider the caller prefers, the kind of
task, a model version and the caller's request id.

Two requests *ask the same thing* when their text, preferred provider and task type agree;
the model version and the request id do not count. The cache key (`Request.cacheKey`) is
the SHA-256 of a compact JSON object that holds exactly those three fields, in a fixed order,
with `null` for an absent hint (`Request.keyMaterial`), so requests that ask the same thing
share a key.

A request is *valid* (`Request.validate`) when its text is not blank and has at most the
allowed number of characters (Unicode scalar values, not bytes).
-/

namespace QueryRelay

/-- A query sent to the gateway. -/
structure Request where
  query : String
  provider : Option Provider := none
  taskType : Option TaskType := none
  modelVersion : Option String := none
  requestId : Option String := none
  deriving DecidableEq, Repr, Inhabited

namespace Request

/-- Why a request is refused before it is sent anywhere, if it is. -/
def validate (r : Request) (maxLen : Nat) : Except Failure Unit :=
  if Text.isBlankText r.query then .error (.invalidRequest "query must not be empty")
  else
    let n := r.query.length
    if n > maxLen then
      .error (.invalidRequest s!"query length {n} exceeds maximum of {maxLen}")
    else .ok ()

/-- The text whose digest is the cache key: the query, the preferred provider and the task
type as a compact JSON object in that order. -/
def keyMaterial (r : Request) : String :=
  "\x7b\"query\":" ++ Json.quote r.query ++
  ",\"provider\":" ++ (match r.provider with
    | some p => Json.quote p.wireName
    | none => "null") ++
  ",\"task_type\":" ++ (match r.taskType with
    | some t => Json.quote t.wireName
    | none => "null") ++ "\x7d"

/-- The cache slot of a request, in lowercase hexadecimal. -/
def cacheKey (r : Request) : String := Digest.hexDigest r.keyMaterial

/-- The declared fields, in order. -/
def fieldNames : List String := ["query", "provider", "task_type", "model_version", "request_id"]

/-- Read a request's fields from a record: only the query is required. -/
def readFields (r : Schema.Record) : Schema.RecordM Request := do
  let query ← r.required "query" Schema.Decoder.string
  let provider ← r.withDefault "provider" (Schema.Decoder.option Provider.decode) none
  let taskType ← r.withDefault "task_type" (Schema.Decoder.option TaskType.decode) none
  let modelVersion ← r.withDefault "model_version" (Schema.Decoder.option Schema.Decoder.string) none
  let requestId ← r.withDefault "request_id" (Schema.Decoder.option Schema.Decoder.string) none
  pure ⟨query, provider, taskType, modelVersion, requestId⟩

/-- How faults name a request. -/
def recordTitle : String := "struct QueryRequest"

/-- Read a request from JSON. -/
def decode : Schema.Decoder Request :=
  Schema.Decoder.record recordTitle fieldNames readFields

/-- A request as JSON; absent hints are left out. -/
def toJson (r : Request) : Json :=
  Json.object ([("query", Json.str r.query)] ++
    (r.provider.map (fun p => ("provider", p.toJson))).toList ++
    (r.taskType.map (fun t => ("task_type", t.toJson))).toList ++
    (r.modelVersion.map (fun m => ("model_version", Json.str m))).toList ++
    (r.requestId.map (fun i => ("request_id", Json.str i))).toList)

end Request

end QueryRelay
