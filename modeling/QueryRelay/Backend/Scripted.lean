import QueryRelay.Query.Response
import QueryRelay.Context

/-!
# Scripted backends

A scripted backend stands in for a provider's API with replies fixed in advance. It holds a
*script*, cues used one per call in order, and a *standing cue* used once the script is
empty. A cue answers with a text, fails with a classified fault, never answers, or crashes
the call.

A call is counted and takes its cue as soon as it starts, so a cue is used up even when
the call is later cut short. The backend then waits its delay, if it has one, and acts. A text
answer counts tokens as a quarter of the UTF-8 bytes, rounded down, of the query and of the
answer.

An availability probe is counted, waits the probe delay, and answers with the backend's
availability flag.
-/

namespace QueryRelay

/-- What a scripted backend does with one call: a cue of its script. -/
inductive Cue where
  /-- Answer with this text. -/
  | text (s : String)
  /-- Fail with this fault. -/
  | fail (f : ProviderFault)
  /-- Never answer. -/
  | hang
  /-- Crash inside the call. -/
  | crash
  deriving DecidableEq, Repr, Inhabited

/-- A backend answering from a script. -/
structure ScriptedBackend where
  provider : Provider
  /-- Replies still to be used, first one first. -/
  script : List Cue := []
  /-- The cue once the script is used up. -/
  standing : Cue
  /-- How long a call waits before it acts. -/
  delayMs : Option Nat := none
  /-- How long a probe waits before it answers. -/
  probeDelayMs : Option Nat := none
  /-- What a probe answers. -/
  available : Bool := true
  /-- Calls started so far. -/
  calls : Nat := 0
  /-- Probes started so far. -/
  probes : Nat := 0
  deriving DecidableEq, Repr, Inhabited

namespace ScriptedBackend

/-- Start a call: count it and take the next cue. -/
def take (b : ScriptedBackend) : Cue × ScriptedBackend :=
  match b.script with
  | r :: rest => (r, { b with script := rest, calls := b.calls + 1 })
  | [] => (b.standing, { b with calls := b.calls + 1 })

/-- The crash of a call that was scripted to crash. -/
def crashOf (b : ScriptedBackend) : Crash := ⟨s!"{b.provider.wireName} mock panicked"⟩

/-- The instant at which a cue taken at `s` has waited its delay; a cue that never answers
has none. -/
def workEnd (b : ScriptedBackend) (r : Cue) (s : Nat) : Option Nat :=
  match r with
  | .hang => none
  | _ => some (s + b.delayMs.getD 0)

/-- Start a probe at `s` under a probe timeout: count it; the answer and when it comes. A probe
that answers exactly at the timeout counts; a slower one answers `false` at the timeout. -/
def probe (b : ScriptedBackend) (timeoutMs s : Nat) : (Nat × Bool) × ScriptedBackend :=
  let d := b.probeDelayMs.getD 0
  let answer := if d ≤ timeoutMs then (s + d, b.available) else (s + timeoutMs, false)
  (answer, { b with probes := b.probes + 1 })

@[simp] theorem take_calls (b : ScriptedBackend) : b.take.2.calls = b.calls + 1 := by
  unfold take; split <;> rfl

end ScriptedBackend

end QueryRelay
