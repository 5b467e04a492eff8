import QueryRelay.Backend.Scripted
import QueryRelay.Backend.Hosted

/-!
# Provider clients in time

A client is what the gateway calls for one provider: a scripted backend or a hosted one.
`Backend.call` runs one call that starts at an instant under a context and says how it ends:
with a completion or a failure at some instant, with a crash, or never.

The context is checked when the call starts; a call that fails the check is not started at all
(a scripted backend does not count it). Then the wait runs under the context
(`Waiter.waitFrom`): the context can end it before the backend acts. For a hosted client the
wait is for the run of its prompts (`HostedClient.query`), each of which runs under the context
too; without its API key it fails at once with a `missing-credential` fault.
-/

namespace QueryRelay

/-- How a provider call ended. -/
inductive CallEnd where
  /-- With this result at this instant. -/
  | answered (t : Nat) (r : Except Failure Completion)
  /-- With a crash at this instant. -/
  | crashed (t : Nat) (c : Crash)
  /-- Never. -/
  | never
  deriving Inhabited

/-- A provider client. -/
inductive Backend where
  | scripted (b : ScriptedBackend)
  | hosted (h : HostedClient) (e : HostedEnv)
  deriving Inhabited

namespace Backend

/-- The provider a client serves. -/
def provider : Backend → Provider
  | .scripted b => b.provider
  | .hosted h _ => h.provider

/-- Run a call of `req` that starts at `s` under a context, waited for by `w`. -/
def call (c : Backend) (w : Waiter) (ctx : Context) (s : Nat) (req : Request) :
    CallEnd × Backend :=
  match w.check ctx s with
  | .error f => (.answered s (.error f), c)
  | .ok () =>
    match c with
    | .hosted h e =>
      let q := h.query e ctx s req.query req.modelVersion
      let outcome : CallEnd := match w.waitFrom ctx s q.1.finish with
        | .stopped t f => .answered t (.error f)
        | .forever => .never
        | .done t => .answered t (q.1.result.map (Completion.ofAnswer req.query))
      (outcome, .hosted h q.2)
    | .scripted b =>
      let (r, b) := b.take
      let outcome : CallEnd := match w.waitFrom ctx s (b.workEnd r s) with
        | .stopped t f => .answered t (.error f)
        | .forever => .never
        | .done t => match r with
          | .text answer => .answered t (.ok (Completion.ofAnswer req.query answer))
          | .fail f => .answered t (.error (.provider f))
          | .crash => .crashed t b.crashOf
          | .hang => .never
      (outcome, .scripted b)

/-- Start an availability probe at `s` under a probe timeout: when it answers and what. A
hosted client answers at once whether its API key is set. -/
def probe (c : Backend) (timeoutMs s : Nat) : (Nat × Bool) × Backend :=
  match c with
  | .hosted h e => ((s, h.hasKey e), c)
  | .scripted b =>
    let (a, b) := b.probe timeoutMs s
    (a, .scripted b)

/-- Calls started so far, for a scripted backend. -/
def calls? : Backend → Option Nat
  | .scripted b => some b.calls
  | .hosted _ _ => none

/-- Probes started so far, for a scripted backend. -/
def probes? : Backend → Option Nat
  | .scripted b => some b.probes
  | .hosted _ _ => none

/-- Set what a scripted backend's probes answer. -/
def setAvailable (c : Backend) (up : Bool) : Backend :=
  match c with
  | .scripted b => .scripted { b with available := up }
  | .hosted _ _ => c

end Backend

end QueryRelay
