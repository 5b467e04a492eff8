import QueryRelay.Query.Request

/-!
# Fan-out requests

A fan-out request is a request with two more fields: the providers to ask (all providers up
when the list is empty; the list is empty when absent) and a timeout in milliseconds.

All fields share one object. It is read in key order: `providers` and `timeout_ms` are read as
they come, and a fault in them is reported at once; every other field is set aside, and the
fields set aside are read as a request once the object is done, so that faults of the request
(a missing `query` among them) come after the faults of the two fan-out fields. Fields the
request does not know are ignored.
-/

namespace QueryRelay

/-- A request to fan out, with the providers to ask and a timeout. -/
structure FanoutRequest where
  request : Request
  providers : List Provider := []
  timeoutMs : Option Nat := none
  deriving DecidableEq, Repr, Inhabited

namespace FanoutRequest

open Schema in
/-- Read a fan-out request from a JSON object. -/
def decode : Decoder FanoutRequest
  | .obj fs => do
    let walk ← fs.foldlM (fun (acc : List Provider × Option Nat × List (String × Json)) kv =>
      let (ps, t, rest) := acc
      if kv.1 == "providers" then do
        let ps ← Decoder.list Provider.decode kv.2
        pure (ps, t, rest)
      else if kv.1 == "timeout_ms" then do
        let t ← Decoder.option Decoder.u64 kv.2
        pure (ps, t, rest)
      else pure (ps, t, rest ++ [kv])) ([], none, [])
    let (providers, timeoutMs, rest) := walk
    let request ← Request.decode (.obj rest)
    pure ⟨request, providers, timeoutMs⟩
  | j => Decoder.mismatch j "struct ParallelQueryRequest"

/-- A fan-out request as JSON: the request, the providers and the timeout, apart. -/
def toJson (r : FanoutRequest) : Json :=
  Json.object [("request", r.request.toJson), ("providers", .arr (r.providers.map Provider.toJson)),
    ("timeout_ms", Json.opt Json.nat r.timeoutMs)]

end FanoutRequest

end QueryRelay
