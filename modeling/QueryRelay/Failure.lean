import QueryRelay.Provider
import QueryRelay.Schema.Decoder

/-!
# Failures

Everything that can go wrong in the gateway is a `Failure`, and the failures that a provider
call produces are *classified*: they carry a `ProviderFault` with one of six kinds, a numeric
code, and a flag saying whether trying again (the same provider later, or another provider)
may help.

Two decisions of the gateway read a failure, and both are stated here once:

* `Failure.isRetryable` — only a single classified fault whose own flag is set is worth a
  retry or a fallback. A failure after a fallback (`exhausted`) is final whatever its source
  says, and so is every unclassified failure.
* `Failure.isCancellation` — the caller gave up (`cancelled`) or ran out of time
  (`deadlineExceeded`); such a failure is never counted against a provider.

The texts (`Failure.message`), the HTTP status (`Failure.httpStatus`) and the stable code of an
error answer (`Failure.apiCode`) are functions of the failure alone.
-/

namespace QueryRelay

/-- The six classes of provider failure. -/
inductive FailureKind where
  | timeout
  | rateLimit
  | invalidResponse
  | emptyResponse
  | missingCredential
  | unavailable
  deriving DecidableEq, Repr, Inhabited

namespace FailureKind

/-- Every kind, in the fixed order. -/
def all : List FailureKind :=
  [timeout, rateLimit, invalidResponse, emptyResponse, missingCredential, unavailable]

/-- The numeric code a fault of this kind carries. -/
def code : FailureKind → Nat
  | timeout => 504
  | rateLimit => 429
  | invalidResponse => 502
  | emptyResponse => 502
  | missingCredential => 401
  | unavailable => 503

/-- Whether a fault of this kind is worth retrying unless its producer says otherwise:
timeouts, throttling and unavailability are passing conditions. -/
def retryableByDefault : FailureKind → Bool
  | timeout => true
  | rateLimit => true
  | unavailable => true
  | _ => false

/-- The spelling of a kind in JSON and in messages. -/
def wireName : FailureKind → String
  | timeout => "timeout"
  | rateLimit => "rate-limit"
  | invalidResponse => "invalid-response"
  | emptyResponse => "empty-response"
  | missingCredential => "missing-credential"
  | unavailable => "unavailable"

/-- The kind with exactly this wire name. -/
def ofWireName? (s : String) : Option FailureKind :=
  all.find? (fun k => k.wireName == s)

/-- Read a kind from JSON: exactly a wire name. -/
def decode : Schema.Decoder FailureKind := Schema.Decoder.choice (all.map (fun k => (k.wireName, k)))

/-- A kind as JSON. -/
def toJson (k : FailureKind) : Json := .str k.wireName

theorem ofWireName?_wireName (k : FailureKind) : ofWireName? k.wireName = some k := by
  cases k <;> rfl

end FailureKind

/-- A classified failure of a provider call. -/
structure ProviderFault where
  /-- The provider it came from, if it can be pinned on one. -/
  provider : Option Provider
  /-- The numeric code (a `u16` on the wire). -/
  code : Nat
  kind : FailureKind
  /-- Whether a retry or a fallback may succeed. -/
  retryable : Bool
  message : String
  deriving DecidableEq, Repr, Inhabited

namespace ProviderFault

/-- A fault of the given kind: the code and the retry flag follow the kind. -/
def classify (provider : Option Provider) (kind : FailureKind) (message : String) :
    ProviderFault :=
  ⟨provider, kind.code, kind, kind.retryableByDefault, message⟩

/-- The same fault with its retry flag set explicitly. -/
def withRetryable (f : ProviderFault) (r : Bool) : ProviderFault := { f with retryable := r }

/-- A provider that answered with nothing. -/
def emptyResponse (p : Provider) : ProviderFault :=
  classify (some p) .emptyResponse "provider returned no content"

/-- No provider can serve a request. -/
def unavailable (provider : Option Provider) (message : String) : ProviderFault :=
  classify provider .unavailable message

/-- A provider that cannot be called for want of a credential or a client. -/
def missingCredential (p : Provider) (message : String) : ProviderFault :=
  classify (some p) .missingCredential message

/-- `kind error from provider (code): message`, or without the provider part. -/
def describe (f : ProviderFault) : String :=
  match f.provider with
  | some p => s!"{f.kind.wireName} error from {p.wireName} ({f.code}): {f.message}"
  | none => s!"{f.kind.wireName} error ({f.code}): {f.message}"

/-- Read a fault from JSON: every field but the provider is required. -/
def decode : Schema.Decoder ProviderFault :=
  Schema.Decoder.record "struct ProviderError" ["provider", "code", "kind", "retryable", "message"]
    fun r => do
      let provider ← r.optional "provider" Provider.decode
      let code ← r.required "code" Schema.Decoder.u16
      let kind ← r.required "kind" FailureKind.decode
      let retryable ← r.required "retryable" Schema.Decoder.bool
      let message ← r.required "message" Schema.Decoder.string
      pure ⟨provider, code, kind, retryable, message⟩

/-- A fault as JSON; an absent provider is written `null`. -/
def toJson (f : ProviderFault) : Json :=
  Json.object [("provider", Json.opt Provider.toJson f.provider), ("code", Json.nat f.code),
    ("kind", f.kind.toJson), ("retryable", .bool f.retryable), ("message", .str f.message)]

@[simp] theorem classify_code (p : Option Provider) (k : FailureKind) (m : String) :
    (classify p k m).code = k.code := rfl

@[simp] theorem classify_retryable (p : Option Provider) (k : FailureKind) (m : String) :
    (classify p k m).retryable = k.retryableByDefault := rfl

end ProviderFault

/-- Everything that can end a request unsuccessfully. -/
inductive Failure where
  /-- A classified fault of one provider call. -/
  | provider (fault : ProviderFault)
  /-- A fault after the fallback too: the providers tried, and the fault that ended it. -/
  | exhausted (attempted : List Provider) (source : ProviderFault)
  /-- The caller cancelled. -/
  | cancelled
  /-- The request ran past its deadline. -/
  | deadlineExceeded
  | invalidRequest (message : String)
  | rateLimited
  | gateway (message : String)
  | cache (message : String)
  | config (message : String)
  /-- Reading or writing JSON failed; the message is the reader's. -/
  | serialization (message : String)
  | internal (message : String)
  /-- Any other failure, shown by its message alone. -/
  | other (message : String)
  deriving DecidableEq, Repr, Inhabited

namespace Failure

/-- The providers of a list, comma separated. -/
def providerList (ps : List Provider) : String := ", ".intercalate (ps.map Provider.wireName)

/-- The human-readable text of a failure. -/
def message : Failure → String
  | provider f => f.describe
  | exhausted ps f => s!"All providers failed (attempted: {providerList ps}): {f.describe}"
  | cancelled => "Request cancelled by caller"
  | deadlineExceeded => "Request deadline exceeded"
  | invalidRequest m => s!"Invalid request: {m}"
  | rateLimited => "Rate limit exceeded"
  | gateway m => s!"Gateway error: {m}"
  | cache m => s!"Cache error: {m}"
  | config m => s!"Configuration error: {m}"
  | serialization m => s!"Serialization error: {m}"
  | internal m => s!"Internal error: {m}"
  | other m => m

/-- The name of the failure's class in error answers. -/
def className : Failure → String
  | provider _ => "Provider"
  | exhausted _ _ => "AllProvidersFailed"
  | cancelled => "Cancelled"
  | deadlineExceeded => "DeadlineExceeded"
  | invalidRequest _ => "InvalidRequest"
  | rateLimited => "RateLimited"
  | gateway _ => "Gateway"
  | cache _ => "Cache"
  | config _ => "Config"
  | serialization _ => "Serialization"
  | internal _ => "Internal"
  | other _ => "Other"

/-- The classified fault inside a failure, if there is one. -/
def fault? : Failure → Option ProviderFault
  | provider f => some f
  | exhausted _ f => some f
  | _ => none

/-- The kind of the classified fault, if there is one. -/
def kind? (e : Failure) : Option FailureKind := e.fault?.map ProviderFault.kind

/-- Only a single classified fault marked retryable is worth another attempt. -/
def isRetryable : Failure → Bool
  | provider f => f.retryable
  | _ => false

/-- The caller gave up or ran out of time. -/
def isCancellation : Failure → Bool
  | cancelled => true
  | deadlineExceeded => true
  | _ => false

/-- The HTTP status of an error answer for this failure. -/
def httpStatus : Failure → Nat
  | invalidRequest _ => 400
  | rateLimited => 429
  | cancelled => 499
  | deadlineExceeded => 504
  | exhausted _ _ => 502
  | provider f =>
    match f.kind with
    | .rateLimit => 429
    | .timeout => 504
    | .unavailable => 503
    | .invalidResponse => 502
    | .emptyResponse => 502
    | .missingCredential => 500
  | _ => 500

/-- The stable machine-readable code of an error answer. -/
def apiCode : Failure → String
  | invalidRequest _ => "invalid_request"
  | rateLimited => "rate_limited"
  | cancelled => "cancelled"
  | deadlineExceeded => "deadline_exceeded"
  | exhausted _ _ => "all_providers_failed"
  | provider f => f.kind.wireName
  | _ => "internal_error"

@[simp] theorem isRetryable_provider (f : ProviderFault) : (provider f).isRetryable = f.retryable :=
  rfl

@[simp] theorem isRetryable_exhausted (ps : List Provider) (f : ProviderFault) :
    (exhausted ps f).isRetryable = false := rfl

@[simp] theorem isCancellation_cancelled : cancelled.isCancellation = true := rfl

@[simp] theorem isCancellation_deadlineExceeded : deadlineExceeded.isCancellation = true := rfl

/-- A retryable failure is a single classified provider fault. -/
theorem eq_provider_of_isRetryable {e : Failure} (h : e.isRetryable = true) :
    ∃ f, e = provider f ∧ f.retryable = true := by
  cases e <;> simp_all [isRetryable]

/-- A cancellation is never retryable. -/
theorem isRetryable_eq_false_of_isCancellation {e : Failure} (h : e.isCancellation = true) :
    e.isRetryable = false := by
  cases e <;> simp_all [isCancellation, isRetryable]

end Failure

/-- A stop of the whole operation that no caller can handle: a checked 64-bit addition that
overflowed, or a backend that aborted. It carries its message. -/
structure Crash where
  message : String
  deriving DecidableEq, Repr, Inhabited

namespace Crash

/-- The crash of an overflowing checked addition. -/
def addOverflow : Crash := ⟨"attempt to add with overflow"⟩

end Crash

/-- The sum of two 64-bit unsigned integers, or a crash when it does not fit. -/
def addChecked (a b : Nat) : Except Crash Nat :=
  if a + b < Nat.pow 2 64 then .ok (a + b) else .error Crash.addOverflow

theorem addChecked_of_lt {a b : Nat} (h : a + b < Nat.pow 2 64) : addChecked a b = .ok (a + b) := by
  unfold addChecked
  rw [if_pos h]

end QueryRelay
