import QueryRelay.Gateway.Basic

/-!
# Concurrent lazy refreshes

Several requests may find the router's map stale at the same time. Each refreshes it lazily
(`Gateway.refreshIfStale`, under the request's context when it has one), and the router lets
only one of them probe at a time. A reader that finds the map stale waits for the router's
*refresh lock*, looks at the map again once it holds the lock, and refreshes only if the map is
still stale. Readers take the lock in the order they asked for it. A reader whose context ends
while it waits leaves the line; a reader whose context ends while it refreshes drops the lock,
and its refresh is cut short.

This module describes that protocol as a state machine over the readers of one router
(`Refreshers`), with one event for each thing that can happen next (`Refreshers.Event`):

* `ask c`: reader `c` looks at the map. A fresh map, or a router that does not refresh on its
  own, sends it back at once; a stale map puts it in line for the lock.
* `acquire`: the first reader in line takes the free lock and looks again. If the map is still
  stale, it starts a refresh from the gateway as it stands, which probes every client at once;
  otherwise it drops the lock and returns.
* `finish`: the last answer of the running refresh comes in. The refresh is complete and its
  end is stamped as the last refresh; the reader drops the lock and returns.
* `quit c e`: reader `c`'s context ends now with `e` (a cancellation or its deadline). A reader
  in line leaves it; the reader refreshing drops the lock, and its refresh is cut short now.
* `advance t`: virtual time moves on to `t` when nothing can happen before it: no reader is in
  line for a free lock, and the running refresh does not end before `t`.

A refresh here is the refresh of one request, `Gateway.refreshFrom`, taken from the gateway in
which it started: run to its end by `finish`, or cut short by `quit` under a context that ends
at that instant. Refreshes asked for explicitly take no lock and are not events of this
machine.

The state keeps a log of the lazy refreshes started so far, with how each ended, so that what
the protocol guarantees can be said of them.
-/

namespace QueryRelay

namespace Refreshers

/-- Where a reader stands in a lazy refresh. -/
inductive Phase where
  /-- It has not looked at the map yet. -/
  | idle
  /-- It found the map stale and waits in line for the refresh lock. -/
  | waiting
  /-- It holds the lock and refreshes. -/
  | refreshing
  /-- It returned: the map was fresh, or its refresh completed. -/
  | returned
  /-- Its context ended first, while it waited or while it refreshed. -/
  | abandoned
  deriving DecidableEq, Repr, Inhabited

/-- How a lazy refresh ended, and when. -/
inductive Ending where
  /-- Every answer came in, and the refresh was stamped. -/
  | completed (t : Nat)
  /-- The reader's context cut it short. -/
  | cut (t : Nat)
  deriving DecidableEq, Repr

/-- A lazy refresh in the log: the reader that ran it, when it started and, once it has, how it
ended. -/
structure Entry where
  reader : Nat
  start : Nat
  ending : Option Ending := none
  deriving DecidableEq, Repr

/-- One thing that can happen next. -/
inductive Event where
  /-- A reader looks at the map. -/
  | ask (c : Nat)
  /-- The first reader in line takes the free lock. -/
  | acquire
  /-- The last answer of the running refresh comes in. -/
  | finish
  /-- A reader's context ends now with this failure. -/
  | quit (c : Nat) (e : Failure)
  /-- Time moves on to this instant. -/
  | advance (t : Nat)

end Refreshers

/-- The readers of one router that refresh its map lazily, and the gateway they share. -/
structure Refreshers where
  gateway : Gateway
  phase : Nat → Refreshers.Phase
  /-- The readers waiting for the refresh lock, first come first. -/
  line : List Nat
  /-- The reader holding the refresh lock, and the gateway its refresh started from. -/
  holder : Option (Nat × Gateway)
  /-- The lazy refreshes started so far, the latest first. -/
  log : List Refreshers.Entry

namespace Refreshers

/-- No reader has looked yet. -/
def init (g : Gateway) : Refreshers := ⟨g, fun _ => .idle, [], none, []⟩

/-- The gateway a refresh started in `g` leaves when it runs to its end. -/
def completed (g : Gateway) : Gateway := ((Gateway.refreshFrom none).run.run g).2

/-- A context that ends at `t` with `e`, for the two failures a context ends with. -/
def endingAt (t : Nat) : Failure → Option Context
  | .cancelled => some { cancel := .at t }
  | .deadlineExceeded => some { deadline := some t }
  | _ => none

/-- The gateway a refresh started in `g` leaves when a context that ends at `t` with `e` cuts it
short, if it does. -/
def cutShort (g : Gateway) (t : Nat) (e : Failure) : Option Gateway :=
  match endingAt t e with
  | some ctx =>
    match (Gateway.refreshFrom (some ctx)).run.run g with
    | (.ok (.error _), g') => some g'
    | _ => none
  | none => none

/-- Set one reader's phase. -/
def setPhase (s : Refreshers) (c : Nat) (p : Phase) : Refreshers :=
  { s with phase := fun d => if d = c then p else s.phase d }

/-- Record how the running refresh, the latest in the log, ended. -/
def closeLatest (log : List Entry) (e : Ending) : List Entry :=
  match log with
  | [] => []
  | x :: rest => { x with ending := some e } :: rest

/-- Whether nothing can happen before `t`: no reader is in line for a free lock, and the running
refresh does not end before `t`. -/
def quietUntil (s : Refreshers) (t : Nat) : Bool :=
  match s.holder with
  | none => s.line.isEmpty
  | some (_, g₀) => decide (t ≤ (completed g₀).clock)

/-- What an event does, if it can happen now. -/
def step (s : Refreshers) : Event → Option Refreshers
  | .ask c =>
    match s.phase c with
    | .idle =>
      if s.gateway.router.wantsRefresh s.gateway.clock then
        some { s.setPhase c .waiting with line := s.line ++ [c] }
      else some (s.setPhase c .returned)
    | _ => none
  | .acquire =>
    match s.holder, s.line with
    | none, c :: rest =>
      if s.gateway.router.isStale s.gateway.clock then
        some { s.setPhase c .refreshing with
          gateway := { s.gateway with registry := (completed s.gateway).registry }
          line := rest
          holder := some (c, s.gateway)
          log := ⟨c, s.gateway.clock, none⟩ :: s.log }
      else some { s.setPhase c .returned with line := rest }
    | _, _ => none
  | .finish =>
    match s.holder with
    | some (c, g₀) =>
      if (completed g₀).clock = s.gateway.clock then
        some { s.setPhase c .returned with
          gateway := completed g₀
          holder := none
          log := closeLatest s.log (.completed s.gateway.clock) }
      else none
    | none => none
  | .quit c e =>
    match s.phase c with
    | .idle => some (s.setPhase c .abandoned)
    | .waiting => some { s.setPhase c .abandoned with line := s.line.erase c }
    | .refreshing =>
      match s.holder with
      | some (h, g₀) =>
        if h = c then
          match cutShort g₀ s.gateway.clock e with
          | some g' =>
            some { s.setPhase c .abandoned with
              gateway := g'
              holder := none
              log := closeLatest s.log (.cut s.gateway.clock) }
          | none => none
        else none
      | none => none
    | _ => none
  | .advance t =>
    if s.gateway.clock ≤ t && s.quietUntil t then
      some { s with gateway := { s.gateway with clock := t } }
    else none

/-- Run events in order, as long as each can happen. -/
def run (s : Refreshers) : List Event → Option Refreshers
  | [] => some s
  | e :: es =>
    match s.step e with
    | some s' => s'.run es
    | none => none

end Refreshers

end QueryRelay
