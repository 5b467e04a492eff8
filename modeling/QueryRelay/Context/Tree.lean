import QueryRelay.Context

/-!
# Contexts derived from one another

A program makes request contexts and derives new ones from them. A context holds a
cancellation *token* and may have a deadline:

* a fresh context has a token of its own and no deadline, or a deadline some time from now;
* a context made around a token the program already holds (a server's shutdown signal, say)
  shares that token and has no deadline;
* a context derived from another one holds a *child* of the other's token, and either the same
  deadline or the earlier of that deadline and a new one.

Tokens behave as the runtime's cancellation tokens do. Cancelling a token cancels every token
derived from it, directly or through other children, and leaves the token it was derived from
alone; a child derived from a cancelled token is cancelled from the start.

`Contexts` keeps the tokens and the contexts of a program in two lists, in the order they were
made, and `Contexts.step` runs one call of the program on them at a virtual instant. A token
records the tokens it was derived from, nearest first, and a context the contexts it was derived
from. The program does not keep the second list: it names the tree the contexts form. An index
that names no token or context stands for no value of the program, and a call on it changes
nothing.

A run under a context of the tree (`Contexts.run`) is a wait of `Context`, under the view the run
has of the context (`Contexts.view`): its deadline, and when its token is found cancelled while
the program's other calls go on.
-/

namespace QueryRelay

/-- A cancellation token: the tokens it was derived from, nearest first, and whether it is
cancelled. -/
structure Token where
  ancestors : List Nat := []
  cancelled : Bool := false
  deriving DecidableEq, Repr, Inhabited

/-- A child of token `k`, whose record is `t`: derived from `k` and from every token `k` was
derived from, and cancelled from the start if `k` is. -/
def Token.child (t : Token) (k : Nat) : Token :=
  { ancestors := k :: t.ancestors, cancelled := t.cancelled }

/-- A request context of a program: the index of its token, its deadline, and the contexts it
was derived from, nearest first. -/
structure ContextNode where
  token : Nat
  deadline : Option Nat := none
  lineage : List Nat := []
  deriving DecidableEq, Repr, Inhabited

/-- One call of a program on its tokens and contexts, which it names by their indices. -/
inductive ContextCall where
  /-- Make a fresh token. -/
  | token
  /-- Derive a child of token `k`. -/
  | childToken (k : Nat)
  /-- Cancel token `k`. -/
  | cancelToken (k : Nat)
  /-- Make a context with a fresh token and no deadline. -/
  | new
  /-- Make a context with a fresh token that expires `timeoutMs` from now. -/
  | withTimeout (timeoutMs : Nat)
  /-- Make a context around token `k`, with no deadline. -/
  | withToken (k : Nat)
  /-- Derive a context from context `c`, with `c`'s deadline. -/
  | child (c : Nat)
  /-- Derive a context from context `c`, whose deadline is the earlier of `c`'s and `timeoutMs`
  from now. -/
  | childWithTimeout (c timeoutMs : Nat)
  /-- Cancel context `c`, that is, its token. -/
  | cancel (c : Nat)
  deriving DecidableEq, Repr

/-- The tokens and the contexts of a program, each in the order they were made. -/
structure Contexts where
  tokens : List Token := []
  nodes : List ContextNode := []
  deriving DecidableEq, Repr, Inhabited

namespace Contexts

/-- Whether token `k` is cancelled. -/
def tokenCancelled (S : Contexts) (k : Nat) : Bool :=
  match S.tokens[k]? with
  | some t => t.cancelled
  | none => false

/-- Add a token. -/
def addToken (S : Contexts) (t : Token) : Contexts := { S with tokens := S.tokens ++ [t] }

/-- Add a context. -/
def addNode (S : Contexts) (n : ContextNode) : Contexts := { S with nodes := S.nodes ++ [n] }

/-- Cancel token `k` and every token derived from it. -/
def cancelToken (S : Contexts) (k : Nat) : Contexts :=
  { S with tokens := S.tokens.mapIdx fun j t =>
      if j = k ∨ k ∈ t.ancestors then { t with cancelled := true } else t }

/-- Make a context with a fresh token and deadline `d`. -/
def fresh (S : Contexts) (d : Option Nat) : Contexts :=
  (S.addToken {}).addNode { token := S.tokens.length, deadline := d }

/-- Derive a context with deadline `d` from context `c`, whose record is `n`: it holds a child
of `c`'s token. -/
def derive (S : Contexts) (c : Nat) (n : ContextNode) (d : Option Nat) : Contexts :=
  match S.tokens[n.token]? with
  | some t =>
    (S.addToken (t.child n.token)).addNode
      { token := S.tokens.length, deadline := d, lineage := c :: n.lineage }
  | none => S

/-- The deadline `d` if it comes before `candidate`, else `candidate`. -/
def earlier (d : Option Nat) (candidate : Nat) : Nat :=
  match d with
  | some e => if e < candidate then e else candidate
  | none => candidate

/-- Run one call at instant `now`. A call that makes a deadline forms the instant `timeoutMs`
from now first, and stops the program if it cannot. -/
def step (S : Contexts) (now : Nat) : ContextCall → Except Crash Contexts
  | .token => .ok (S.addToken {})
  | .childToken k =>
    match S.tokens[k]? with
    | some t => .ok (S.addToken (t.child k))
    | none => .ok S
  | .cancelToken k => .ok (S.cancelToken k)
  | .new => .ok (S.fresh none)
  | .withTimeout timeoutMs => do
    let d ← instantAfter now timeoutMs
    pure (S.fresh (some d))
  | .withToken k => .ok (if k < S.tokens.length then S.addNode { token := k } else S)
  | .child c =>
    match S.nodes[c]? with
    | some n => .ok (S.derive c n n.deadline)
    | none => .ok S
  | .childWithTimeout c timeoutMs =>
    match S.nodes[c]? with
    | some n => do
      let candidate ← instantAfter now timeoutMs
      pure (S.derive c n (some (earlier n.deadline candidate)))
    | none => .ok S
  | .cancel c =>
    match S.nodes[c]? with
    | some n => .ok (S.cancelToken n.token)
    | none => .ok S

/-- Run calls one after another, each at its instant; a call that stops the program stops the
run. -/
def runCalls (S : Contexts) : List (Nat × ContextCall) → Except Crash Contexts
  | [] => .ok S
  | (t, call) :: h =>
    match S.step t call with
    | .ok S' => S'.runCalls h
    | .error e => .error e

/-- The failure context `c` is done with at instant `t`, if it is done: cancelled once its token
is, else past its deadline from the deadline on. -/
def error (S : Contexts) (c t : Nat) : Option Failure :=
  match S.nodes[c]? with
  | none => none
  | some n =>
    if S.tokenCancelled n.token then some .cancelled
    else
      match n.deadline with
      | some d => if d ≤ t then some .deadlineExceeded else none
      | none => none

/-- The instant of the first of the calls `h`, made from `S` on, after which token `k` is
cancelled; `none` if no call leaves it cancelled before the program stops. -/
def firstCancel (S : Contexts) (k : Nat) : List (Nat × ContextCall) → Option Nat
  | [] => none
  | (t, call) :: h =>
    match S.step t call with
    | .ok S' => if S'.tokenCancelled k then some t else S'.firstCancel k h
    | .error _ => none

/-- The view a run under context `c` has, from `S` on while the calls `h` go on: the context's
deadline, and its token cancelled already, or at the first call that cancels it, or never. -/
def view (S : Contexts) (c : Nat) (h : List (Nat × ContextCall)) : Context :=
  match S.nodes[c]? with
  | none => {}
  | some n =>
    { cancel :=
        if S.tokenCancelled n.token then .before
        else
          match S.firstCancel n.token h with
          | some t => .at t
          | none => .never
      deadline := n.deadline }

end Contexts

namespace Waiter

/-- A waiter's run from `s` for work done at `e`: the check, then the wait. -/
def wait (w : Waiter) (ctx : Context) (s : Nat) (e : Option Nat) : WaitEnd :=
  match w.check ctx s with
  | .error f => .stopped s f
  | .ok () => w.waitFrom ctx s e

end Waiter

/-- A run under context `c` of `S`, started at `s` and waited for by `w`, for work done at `e`,
while the calls `h` go on. -/
def Contexts.run (w : Waiter) (S : Contexts) (c s : Nat) (h : List (Nat × ContextCall))
    (e : Option Nat) : WaitEnd :=
  w.wait (S.view c h) s e

end QueryRelay
