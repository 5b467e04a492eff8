import QueryRelay.Failure

/-!
# Request contexts in virtual time

A request runs under a *context*: the caller may cancel it, and it may have a deadline.
Time is virtual and counted in whole milliseconds from the start of the run; it moves only
when everything waits, and then jumps to the next instant something is due.

## What happens at one instant

Several things can be due at the same instant, and the order in which they are seen decides
answers. Two orders are at work:

* **The request's own flow** (`Context.check`, `Context.wait`) runs first at an instant, before
  a cancellation that falls due at that instant takes effect. So a check at the instant of
  the cancellation still passes, a wait that ends at that instant still completes, and a wait
  that *starts* at that instant is cancelled at once.
* **A separate task** started by the flow (one provider of a fan-out, `Context.waitTask`) runs
  after the cancellation: a task started at the instant of the cancellation sees it at once,
  and a task whose work ends at that instant is cancelled.

Within one wait the order is always: cancellation, then the deadline, then the work. A wait
whose work ends exactly at the deadline ends with the deadline. A wait is the result of
`Context.wait`: its end instant and, unless the work completed, the failure it ended with.
-/

namespace QueryRelay

/-- When the caller cancels a request. -/
inductive Cancellation where
  /-- Never. -/
  | never
  /-- Before the request started. -/
  | before
  /-- At this instant. -/
  | at (t : Nat)
  deriving DecidableEq, Repr, Inhabited

/-- The caller's cancellation and the deadline of a request. -/
structure Context where
  cancel : Cancellation := .never
  deadline : Option Nat := none
  deriving DecidableEq, Repr, Inhabited

/-- How a wait ended. -/
inductive WaitEnd where
  /-- The work completed at this instant. -/
  | done (t : Nat)
  /-- The context ended it at this instant with this failure. -/
  | stopped (t : Nat) (e : Failure)
  /-- Nothing ever ends it. -/
  | forever
  deriving DecidableEq, Repr, Inhabited

/-- The instant `d` milliseconds after `now`. Instants count whole seconds in a signed 64-bit
word, so a sum whose seconds (with the carry of the milliseconds) reach `2^63` cannot be formed
and stops the operation. -/
def instantAfter (now d : Nat) : Except Crash Nat :=
  let carry := if now % 1000 + d % 1000 ≥ 1000 then 1 else 0
  if now / 1000 + d / 1000 + carry ≥ Nat.pow 2 63 then .error ⟨"overflow when adding duration to instant"⟩
  else .ok (now + d)

namespace Context

/-- A context that expires `timeout` milliseconds after `now`. -/
def expiring (now timeout : Nat) : Context := { deadline := some (now + timeout) }

/-- A context inside this one whose deadline is the earlier of this one's and `timeout` after
`now`; it is cancelled with this one. -/
def narrowed (c : Context) (now timeout : Nat) : Context :=
  let candidate := now + timeout
  { c with deadline := some (match c.deadline with
      | some d => if d < candidate then d else candidate
      | none => candidate) }

/-- Whether the flow sees the cancellation at instant `t`. -/
def cancelledAt (c : Context) (t : Nat) : Bool :=
  match c.cancel with
  | .never => false
  | .before => true
  | .at tc => tc < t

/-- Whether the deadline has passed at instant `t`. -/
def expiredAt (c : Context) (t : Nat) : Bool :=
  match c.deadline with
  | some d => d ≤ t
  | none => false

/-- The context's failure at instant `t`, if it is done: cancellation before the deadline. -/
def check (c : Context) (t : Nat) : Except Failure Unit :=
  if c.cancelledAt t then .error .cancelled
  else if c.expiredAt t then .error .deadlineExceeded
  else .ok ()

/-- Between the deadline and the work, whichever comes first; the deadline on a tie. -/
def deadlineOrWork (d e : Option Nat) : WaitEnd :=
  match d, e with
  | some d, some w => if d ≤ w then .stopped d .deadlineExceeded else .done w
  | some d, none => .stopped d .deadlineExceeded
  | none, some w => .done w
  | none, none => .forever

/-- Whether an instant falls strictly before an optional later instant (`none`: never). -/
def strictlyBefore (t : Nat) : Option Nat → Bool
  | some u => t < u
  | none => true

/-- Whether an instant falls at or before an optional instant (`none`: never). -/
def notAfter (t : Nat) : Option Nat → Bool
  | some u => t ≤ u
  | none => true

/-- The flow waits from `s` for work that completes at `e` (`none`: never), under the context;
the context was checked at `s`. A cancellation due at or after `s` ends it if it falls due
strictly before both the work and the deadline; otherwise the deadline ends it unless the work
is done strictly before it. -/
def waitFrom (c : Context) (s : Nat) (e : Option Nat) : WaitEnd :=
  match c.cancel with
  | .at tc =>
    if s ≤ tc && strictlyBefore tc e && strictlyBefore tc c.deadline then .stopped tc .cancelled
    else deadlineOrWork c.deadline e
  | _ => deadlineOrWork c.deadline e

/-- Check the context at `s`, then wait for work that completes at `e`. -/
def wait (c : Context) (s : Nat) (e : Option Nat) : WaitEnd :=
  match c.check s with
  | .error f => .stopped s f
  | .ok () => c.waitFrom s e

/-- Whether a separate task starting at `s` sees the cancellation at once: it does when the
cancellation fell due at `s` or before. -/
def taskSeesCancel (c : Context) (s : Nat) : Bool :=
  match c.cancel with
  | .never => false
  | .before => true
  | .at tc => tc ≤ s

/-- The check a separate task makes when it starts at `s`: a cancellation due at `s` counts. -/
def taskCheck (c : Context) (s : Nat) : Except Failure Unit :=
  if c.taskSeesCancel s then .error .cancelled
  else if c.expiredAt s then .error .deadlineExceeded
  else .ok ()

/-- A separate task that passed its check at `s` waits for work that completes at `e`. Work
that completes at `s` itself completes; later, at one instant, the cancellation comes before
the deadline and the deadline before the work. -/
def taskWaitFrom (c : Context) (s : Nat) (e : Option Nat) : WaitEnd :=
  if e = some s then .done s
  else
    match c.cancel with
    | .at tc =>
      if notAfter tc e && notAfter tc c.deadline then .stopped tc .cancelled
      else deadlineOrWork c.deadline e
    | _ => deadlineOrWork c.deadline e

/-- A separate task started at `s` checks the context, then waits for work that completes at
`e`. -/
def waitTask (c : Context) (s : Nat) (e : Option Nat) : WaitEnd :=
  match c.taskCheck s with
  | .error f => .stopped s f
  | .ok () => c.taskWaitFrom s e

end Context

/-- Who waits under a context: the request's own flow, or a separate task it started. -/
inductive Waiter where
  | flow
  | task
  deriving DecidableEq, Repr, Inhabited

namespace Waiter

/-- The check a waiter makes before its work starts at `s`. -/
def check : Waiter → Context → Nat → Except Failure Unit
  | .flow, c, s => c.check s
  | .task, c, s => c.taskCheck s

/-- How a waiter's wait from `s` for work completing at `e` ends, once its check passed. -/
def waitFrom : Waiter → Context → Nat → Option Nat → WaitEnd
  | .flow, c, s, e => c.waitFrom s e
  | .task, c, s, e => c.taskWaitFrom s e

end Waiter

end QueryRelay
