import QueryRelay.Query.Response

/-!
# Outcomes of a fan-out

When one request goes to several providers at once, each provider's part ends in an
`Outcome`: it answered, it failed (with the failure's text and, for a classified fault, its
kind and code), the shared deadline passed first, or the caller cancelled. A failure becomes
an outcome by `Outcome.ofFailure`: a deadline is a `timeout`, a cancellation is `cancelled`,
and everything else is an `error`.

An outcome is written as an object whose `status` field names the alternative, beside the
alternative's own fields (`Outcome.toJson`). Reading one back (`Outcome.decode`) looks for
`status` first; the other fields are kept aside and read as the alternative's record once the
alternative is known.

A `FanoutReport` collects the outcomes by provider, each provider once, in the fixed provider
order.
-/

namespace QueryRelay

/-- How one provider's part of a fan-out ended. -/
inductive Outcome where
  | success (response : Response)
  | error (message : String) (kind : Option FailureKind) (code : Option Nat)
  | timeout
  | cancelled
  deriving DecidableEq, Repr, Inhabited

namespace Outcome

/-- The outcome a failure stands for. -/
def ofFailure : Failure → Outcome
  | .deadlineExceeded => timeout
  | .cancelled => cancelled
  | e => error e.message e.kind? (e.fault?.map ProviderFault.code)

/-- Whether the provider answered. -/
def isSuccess : Outcome → Bool
  | success _ => true
  | _ => false

/-- An outcome as JSON, tagged by `status`. -/
def toJson : Outcome → Json
  | success r => Json.object [("status", .str "success"), ("response", r.toJson)]
  | error m k c => Json.object ([("status", .str "error"), ("message", .str m)] ++
      (k.map (fun k => ("kind", k.toJson))).toList ++ (c.map (fun c => ("code", Json.nat c))).toList)
  | timeout => Json.object [("status", .str "timeout")]
  | cancelled => Json.object [("status", .str "cancelled")]

/-- The names of the alternatives, as `status` spells them. -/
inductive Status where
  | success
  | error
  | timeout
  | cancelled
  deriving DecidableEq, Repr, Inhabited

/-- The spellings of the alternatives, in declaration order. -/
def statusNames : List (String × Status) :=
  [("success", .success), ("error", .error), ("timeout", .timeout), ("cancelled", .cancelled)]

/-- Read the `status` value: a string naming an alternative. -/
def decodeStatus : Schema.Decoder Status
  | .str s => Schema.Decoder.spelled statusNames s
  | j => Schema.Decoder.mismatch j "variant identifier"

/-- The fault for a kept-aside array with items past the alternative's fields. -/
def surplusOf (fields : Nat) (n : Nat) : Schema.DecodeError :=
  .invalidLength n (if fields = 1 then "1 element in sequence" else s!"{fields} elements in sequence")

/-- Read the alternative's own fields from what was kept aside. -/
def decodeBody (s : Status) (rest : Schema.RecordLayout) : Except Schema.DecodeError Outcome :=
  match s with
  | .success =>
    let title := "struct variant ProviderOutcome::Success"
    Schema.Record.run { layout := rest, names := ["response"], title, surplus := surplusOf 1 }
      fun r => do
        let resp ← r.required "response" Response.decode
        pure (success resp)
  | .error =>
    let title := "struct variant ProviderOutcome::Error"
    let names := ["message", "kind", "code"]
    Schema.Record.run { layout := rest, names, title, surplus := surplusOf 3 }
      fun r => do
        let m ← r.required "message" Schema.Decoder.string
        let k ← r.withDefault "kind" (Schema.Decoder.option FailureKind.decode) none
        let c ← r.withDefault "code" (Schema.Decoder.option Schema.Decoder.u16) none
        pure (error m k c)
  | .timeout => .ok timeout
  | .cancelled => .ok cancelled

/-- The `status` of an object's fields and the other fields, or why there is none. -/
def splitStatus : List (String × Json) → Except Schema.DecodeError (Option Status × List (String × Json))
  | [] => .ok (none, [])
  | (k, v) :: rest =>
    if k = "status" then do
      let s ← decodeStatus v
      let (again, others) ← splitStatus rest
      match again with
      | some _ => .error (.duplicateField "status")
      | none => .ok (some s, others)
    else do
      let (s, others) ← splitStatus rest
      .ok (s, (k, v) :: others)

/-- Read an outcome: an object with a `status` field, or an array whose first item is the
status. -/
def decode : Schema.Decoder Outcome
  | .obj fs => do
    let (s, others) ← splitStatus fs
    match s with
    | some s => decodeBody s (.fields others)
    | none => .error (.missingField "status")
  | .arr [] => .error (.missingField "status")
  | .arr (t :: rest) => do
    let s ← decodeStatus t
    decodeBody s (.items rest)
  | j => Schema.Decoder.mismatch j "internally tagged enum ProviderOutcome"

end Outcome

/-- The outcomes of a fan-out by provider, with the request id and the total latency. -/
structure FanoutReport where
  requestId : Option String := none
  /-- Each provider at most once, in the fixed provider order. -/
  results : List (Provider × Outcome)
  latencyMs : Nat
  deriving DecidableEq, Repr, Inhabited

/-- Put a provider's outcome into a list kept in provider order, replacing an earlier one. -/
def insertOutcome (p : Provider) (o : Outcome) : List (Provider × Outcome) → List (Provider × Outcome)
  | [] => [(p, o)]
  | (q, o') :: rest =>
    if p.rank < q.rank then (p, o) :: (q, o') :: rest
    else if p = q then (p, o) :: rest
    else (q, o') :: insertOutcome p o rest

namespace FanoutReport

/-- How many providers answered. -/
def successCount (r : FanoutReport) : Nat := (r.results.filter (fun e => e.2.isSuccess)).length

/-- Read a report from JSON. -/
def decode : Schema.Decoder FanoutReport :=
  Schema.Decoder.record "struct ParallelQueryResponse" ["request_id", "results", "latency_ms"]
    fun r => do
      let requestId ← r.withDefault "request_id" (Schema.Decoder.option Schema.Decoder.string) none
      let entries ← r.required "results"
        (Schema.Decoder.entries (Schema.Decoder.spelled Provider.spellings) Outcome.decode)
      let latencyMs ← r.required "latency_ms" Schema.Decoder.u64
      pure ⟨requestId, entries.foldl (fun acc e => insertOutcome e.1 e.2 acc) [], latencyMs⟩

/-- A report as JSON: outcomes as an object keyed by provider. -/
def toJson (r : FanoutReport) : Json :=
  Json.object ((r.requestId.map (fun i => ("request_id", Json.str i))).toList ++
    [("results", Json.object (r.results.map (fun e => (e.1.wireName, e.2.toJson)))),
     ("latency_ms", Json.nat r.latencyMs)])

end FanoutReport

end QueryRelay
