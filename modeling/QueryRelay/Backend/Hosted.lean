import QueryRelay.Settings
import QueryRelay.Context
import QueryRelay.Retry
import QueryRelay.Text.Search

/-!
# Hosted model clients

A hosted client calls a provider's API with a model and an optional system prompt. Only four
providers have such a client (`Provider.credentialVar`); each reads its API key from an
environment variable, and a client is available exactly when the key is set to a text that is
not blank (`HostedClient.hasKey`). Making a client (`HostedClient.create`) refuses a provider
without a hosted client first, then a blank model name.

## A call

A call of a query runs prompts under the client's retry policy (`HostedClient.query`), each
prompt under the caller's context (`HostedClient.prompt`). Without a key a prompt fails at once
with a `missing-credential` fault naming the variable, which is not worth retrying. With one,
the vendor API answers after a delay, or never. Its failures are classified
(`classifyPromptError`): a failed HTTP request, and a completion failure of no other kind, make
the provider unavailable; a malformed answer is an invalid response; and an error the vendor
reports is read from the words of its message (`classifyMessage`), since vendors report
throttling and overload only there. An answer made only of blanks is an empty response.

## What lies outside

The process environment, the vendor's answers and the random draws of a jittered wait are not
the program's to decide: they are a parameter of the client (`HostedEnv`). The vendor's answers
are a script, taken in order, one for each prompt sent, as a scripted backend's cues are; the
environment records the prompts it was sent. The gateway's own runs have no keys, so there
every call that its context lets start fails at once for want of the key.
-/

namespace QueryRelay

/-- The environment variable holding a provider's API key, for providers with a hosted
client. -/
def Provider.credentialVar : Provider → Option String
  | .openai => some "OPENAI_API_KEY"
  | .claude => some "ANTHROPIC_API_KEY"
  | .gemini => some "GEMINI_API_KEY"
  | .mistral => some "MISTRAL_API_KEY"
  | .vertex => none
  | .bedrock => none

/-- Whether a provider has a hosted client. -/
def Provider.hasHostedClient (p : Provider) : Bool := p.credentialVar.isSome

/-- A client of a hosted model API. -/
structure HostedClient where
  provider : Provider
  model : String
  systemPrompt : Option String := none
  retry : RetrySettings := RetrySettings.never
  deriving Repr, Inhabited

namespace HostedClient

/-- Make a client, refusing a provider without a hosted client, then a blank model. -/
def create (p : Provider) (model : String) (systemPrompt : Option String) :
    Except Failure HostedClient :=
  if !p.hasHostedClient then .error (.config s!"no Rig backend for provider {p.wireName}")
  else if Text.isBlankText model then .error (.config s!"no model configured for {p.wireName}")
  else .ok ⟨p, model, systemPrompt, RetrySettings.never⟩

/-- The fault of a call without an API key. -/
def missingKey (c : HostedClient) : Failure :=
  let var := c.provider.credentialVar.getD "API key"
  .provider (ProviderFault.missingCredential c.provider s!"{var} not set")

end HostedClient

/-- How a prompt to a vendor API failed, as the completion library reports it, with the text it
shows for the failure. -/
inductive PromptError where
  /-- The HTTP request failed. -/
  | http (message : String)
  /-- The answer was not the JSON expected. -/
  | json (message : String)
  /-- The API answered with an error response. -/
  | response (message : String)
  /-- The vendor reported an error in its payload. -/
  | vendor (message : String)
  /-- The completion failed in another way. -/
  | completion (message : String)
  /-- The prompt failed outside the completion. -/
  | other (message : String)
  deriving DecidableEq, Repr, Inhabited

/-- A vendor's answer to one prompt: its text or its failure, after a delay (`none`: it never
answers). -/
structure VendorReply where
  result : Except PromptError String
  delayMs : Option Nat := some 0
  deriving Repr, Inhabited

/-- A prompt as a client sends it: the model, the system prompt and the text. -/
structure SentPrompt where
  model : String
  systemPrompt : Option String
  text : String
  deriving DecidableEq, Repr, Inhabited

/-- What a hosted client meets outside the program. -/
structure HostedEnv where
  /-- The process environment: variables and their values. -/
  vars : List (String × String) := []
  /-- The vendor's answers to the next prompts, in order. -/
  replies : List VendorReply := []
  /-- The vendor's answer to every prompt after those; by default it never answers. -/
  standing : VendorReply := { result := .ok "", delayMs := none }
  /-- The jittered wait before each retry, by attempt, as the random draws give it. -/
  jittered : Nat → Nat := fun _ => 0
  /-- The prompts sent so far. -/
  sent : List SentPrompt := []
  deriving Inhabited

namespace HostedEnv

/-- The vendor's answer to the `i`-th prompt from now. -/
def replyAt (e : HostedEnv) (i : Nat) : VendorReply := e.replies.getD i e.standing

/-- The environment once `n` prompts `p` were sent: their answers used up, the prompts
recorded. -/
def afterPrompts (e : HostedEnv) (p : SentPrompt) (n : Nat) : HostedEnv :=
  { e with replies := e.replies.drop n, sent := e.sent ++ List.replicate n p }

end HostedEnv

/-- The words of a vendor's message that classify it, with the kind each group names, in the
order they are tried. -/
def messageKinds : List (List String × FailureKind) :=
  [(["429", "rate limit", "rate_limit"], .rateLimit),
   (["timeout", "timed out"], .timeout),
   (["401", "unauthorized", "api key"], .missingCredential),
   (["503", "overloaded", "unavailable"], .unavailable)]

/-- Classify a vendor's own error message by the first group of words it mentions, in any
case; a message that mentions none is an invalid response. -/
def classifyMessage (p : Provider) (msg : String) : ProviderFault :=
  match messageKinds.find? (fun e => e.1.any (Text.mentions msg)) with
  | some (_, kind) => .classify (some p) kind msg
  | none => .classify (some p) .invalidResponse msg

/-- Classify a failed prompt. -/
def classifyPromptError (p : Provider) : PromptError → ProviderFault
  | .http m => .unavailable (some p) m
  | .json m => .classify (some p) .invalidResponse m
  | .response m => .classify (some p) .invalidResponse m
  | .vendor m => classifyMessage p m
  | .completion m => .unavailable (some p) m
  | .other m => .classify (some p) .invalidResponse m

namespace HostedClient

/-- Whether the API key is set to a text that is not blank. -/
def hasKey (c : HostedClient) (e : HostedEnv) : Bool :=
  match c.provider.credentialVar.bind (fun var => e.vars.lookup var) with
  | some key => !Text.isBlankText key
  | none => false

/-- What a prompt makes of the vendor's answer: a failure classified, and an answer made only
of blanks refused as empty. -/
def answer (c : HostedClient) : Except PromptError String → Except Failure String
  | .error e => .error (.provider (classifyPromptError c.provider e))
  | .ok text =>
    if Text.isBlankText text then .error (.provider (.emptyResponse c.provider)) else .ok text

/-- What a prompt gives, with the key set or not, if the vendor answers `r`, and after how long:
without a key, the missing key at once; with one, what the vendor's answer makes, after its
delay. -/
def promptReply (c : HostedClient) (keyed : Bool) (r : VendorReply) :
    Except Failure String × Option Nat :=
  if keyed then (c.answer r.result, r.delayMs) else (.error c.missingKey, some 0)

/-- One prompt started at `t` under the context: the context's failure if it is done at `t` or
ends the wait first, and what the prompt gives otherwise. -/
def prompt (c : HostedClient) (keyed : Bool) (r : VendorReply) (ctx : Context) (t : Nat) :
    Except Failure String × Option Nat :=
  match ctx.wait t ((c.promptReply keyed r).2.map (t + ·)) with
  | .stopped u f => (.error f, some u)
  | .forever => ((c.promptReply keyed r).1, none)
  | .done u => ((c.promptReply keyed r).1, some u)

/-- The prompts of a call started at `s`, run under the retry policy: the `i`-th is answered
by the `i`-th of the vendor's answers still due. -/
def promptRun (c : HostedClient) (e : HostedEnv) (ctx : Context) (s : Nat) : RunLog String :=
  c.retry.run e.jittered ctx (fun i t => c.prompt (c.hasKey e) (e.replyAt i) ctx t) s

/-- The prompts a run sent: one for each attempt the context let start, if the key is set. -/
def promptsSent (c : HostedClient) (e : HostedEnv) (ctx : Context) (log : RunLog String) : Nat :=
  if c.hasKey e then (log.calls.filter (fun cl => (ctx.check cl.instant).isOk)).length else 0

/-- A call of `text` started at `s`, with the model the request names or else the client's own:
the run of its prompts, and the environment after them. -/
def query (c : HostedClient) (e : HostedEnv) (ctx : Context) (s : Nat) (text : String)
    (modelVersion : Option String) : RunLog String × HostedEnv :=
  let log := c.promptRun e ctx s
  (log, e.afterPrompts ⟨modelVersion.getD c.model, c.systemPrompt, text⟩ (c.promptsSent e ctx log))

end HostedClient

/-- The hosted clients the settings ask for: every enabled provider that has a hosted client,
in provider order; the first that cannot be made stops it. -/
def Settings.hostedClients (s : Settings) : Except Failure (List HostedClient) :=
  (s.enabledProviders.filter (fun e => e.1.hasHostedClient)).mapM (fun e => do
    let c ← HostedClient.create e.1 e.2.model e.2.systemPrompt
    pure { c with retry := s.retry })

end QueryRelay
