import QueryRelay.Failure

/-!
# Error bodies

A failed request is answered with the failure's HTTP status (`Failure.httpStatus`) and a small
JSON body: the stable code (`Failure.apiCode`), the failure's text, and the request id when the
request had one.
-/

namespace QueryRelay

namespace Failure

/-- The JSON body of an error answer. -/
def errorBody (e : Failure) (requestId : Option String) : Json :=
  Json.object ([("code", Json.str e.apiCode), ("message", Json.str e.message)] ++
    (requestId.map (fun i => ("request_id", Json.str i))).toList)

end Failure

end QueryRelay
