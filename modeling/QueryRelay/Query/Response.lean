import QueryRelay.Query.Request

/-!
# Completions and responses

A *completion* is what a provider returns for one successful call: the text and the token
counts of prompt and answer. A *response* is what the gateway returns to its caller: the text,
the provider that served it, the latency, whether it came from the cache, the token counts and
their total, how many times the request was handed to another provider, and which provider
failed first if one did.

The total is the checked sum of the two counts (`Response.ofCompletion`): the counts are
64-bit, and a sum past that width stops the operation (`Crash.addOverflow`).
-/

namespace QueryRelay

/-- What a provider returns for one successful call. -/
structure Completion where
  text : String
  inputTokens : Nat
  outputTokens : Nat
  deriving DecidableEq, Repr, Inhabited

namespace Completion

/-- The completion of an answer to a query: a client counts a quarter of the UTF-8 bytes of
each as its tokens. -/
def ofAnswer (query answer : String) : Completion :=
  ⟨answer, query.utf8ByteSize / 4, answer.utf8ByteSize / 4⟩

/-- Read a completion from JSON: all three fields are required. -/
def decode : Schema.Decoder Completion :=
  Schema.Decoder.record "struct ProviderCompletion" ["text", "input_tokens", "output_tokens"]
    fun r => do
      let text ← r.required "text" Schema.Decoder.string
      let input ← r.required "input_tokens" Schema.Decoder.u64
      let output ← r.required "output_tokens" Schema.Decoder.u64
      pure ⟨text, input, output⟩

/-- A completion as JSON. -/
def toJson (c : Completion) : Json :=
  Json.object [("text", .str c.text), ("input_tokens", Json.nat c.inputTokens),
    ("output_tokens", Json.nat c.outputTokens)]

end Completion

/-- What the gateway answers to a request. -/
structure Response where
  /-- The answer text. -/
  text : String
  /-- The provider that served the request. -/
  provider : Provider
  requestId : Option String := none
  latencyMs : Nat
  cached : Bool
  inputTokens : Nat
  outputTokens : Nat
  totalTokens : Nat
  /-- How many times the request went to another provider after the first. -/
  retries : Nat
  /-- The provider that failed before another one served the request. -/
  originalProvider : Option Provider := none
  error : Option String := none
  errorCode : Option Nat := none
  deriving DecidableEq, Repr, Inhabited

namespace Response

/-- The response built from a completion: not cached, no retries, total tokens the checked
sum of the two counts. -/
def ofCompletion (p : Provider) (c : Completion) (latencyMs : Nat) : Except Crash Response := do
  let total ← addChecked c.inputTokens c.outputTokens
  pure { text := c.text, provider := p, latencyMs := latencyMs, cached := false,
         inputTokens := c.inputTokens, outputTokens := c.outputTokens, totalTokens := total,
         retries := 0 }

/-- The declared fields, in order. -/
def fieldNames : List String :=
  ["response", "provider", "request_id", "latency_ms", "cached", "input_tokens",
   "output_tokens", "total_tokens", "retries", "original_provider", "error", "error_code"]

/-- Read a response from JSON. -/
def decode : Schema.Decoder Response :=
  Schema.Decoder.record "struct QueryResponse" fieldNames fun r => do
    let text ← r.required "response" Schema.Decoder.string
    let provider ← r.required "provider" Provider.decode
    let requestId ← r.withDefault "request_id" (Schema.Decoder.option Schema.Decoder.string) none
    let latencyMs ← r.required "latency_ms" Schema.Decoder.u64
    let cached ← r.required "cached" Schema.Decoder.bool
    let inputTokens ← r.required "input_tokens" Schema.Decoder.u64
    let outputTokens ← r.required "output_tokens" Schema.Decoder.u64
    let totalTokens ← r.required "total_tokens" Schema.Decoder.u64
    let retries ← r.required "retries" Schema.Decoder.u32
    let originalProvider ← r.withDefault "original_provider" (Schema.Decoder.option Provider.decode) none
    let error ← r.withDefault "error" (Schema.Decoder.option Schema.Decoder.string) none
    let errorCode ← r.withDefault "error_code" (Schema.Decoder.option Schema.Decoder.u16) none
    pure ⟨text, provider, requestId, latencyMs, cached, inputTokens, outputTokens, totalTokens,
      retries, originalProvider, error, errorCode⟩

/-- A response as JSON; absent optional fields are left out. -/
def toJson (r : Response) : Json :=
  Json.object ([("response", Json.str r.text), ("provider", r.provider.toJson)] ++
    (r.requestId.map (fun i => ("request_id", Json.str i))).toList ++
    [("latency_ms", Json.nat r.latencyMs), ("cached", .bool r.cached),
     ("input_tokens", Json.nat r.inputTokens), ("output_tokens", Json.nat r.outputTokens),
     ("total_tokens", Json.nat r.totalTokens), ("retries", Json.nat r.retries)] ++
    (r.originalProvider.map (fun p => ("original_provider", p.toJson))).toList ++
    (r.error.map (fun e => ("error", Json.str e))).toList ++
    (r.errorCode.map (fun c => ("error_code", Json.nat c))).toList)

end Response

end QueryRelay
