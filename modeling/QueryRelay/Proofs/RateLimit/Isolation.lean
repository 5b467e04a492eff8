import Mathlib.Data.List.Basic
import QueryRelay.Proofs.Gateway.Exec
import QueryRelay.Http.Server

/-!
# Clients do not share buckets

A rate limiter keeps one bucket per client. This file shows that a client cannot tell the
other clients are there: over every history of admissions and sweeps, at any instants, the
decisions a client gets are those it would get if only its own admissions and the sweeps had
happened (`decisionsFor_run_of_sameFor`). It holds with or without an override, for every float the
refill arithmetic computes, because a client's decision is a function of the limiter's
settings and of that client's own buckets alone (`allowClient_fst`), and nothing but the
client's own admissions changes those buckets (`ownBuckets_allowClient_of_ne`,
`ownBuckets_cleanup`).

## The view of one client

`ownBuckets A cs` is the list of client `A`'s buckets in the client list `cs`. A limiter made
by `RateLimiter.create` and driven by its calls holds at most one bucket per client, but the
lemmas are stated for every list:

* an admission of `A` asks the first of `A`'s buckets, or makes a full one when `A` has none
  (`admitOwn`, `acquireIn_own`): on its first call and on its first call after a sweep dropped
  it, a client is admitted by a full bucket;
* an admission of another client leaves `A`'s buckets as they are;
* a sweep keeps `A`'s buckets that were asked less than the retention period ago, unchanged.

Every bucket a client holds was last asked at the instant of the client's last admission
(`lastSeen_run`), so a sweep at `t` drops exactly the clients whose last admission lies at
least the retention period before `t`, and answers how many it dropped (`cleanup_fst`).

## The middleware

A request to a limited route first asks its client's bucket and asks the global bucket only
when the client's admitted it (`RateLimiter.gate`). So over a history of requests the global
bucket answers exactly the instants of the requests their clients admitted (`gateRun_global`),
and a request reaches its handler exactly when both buckets admit it (`exec_serveHttp_limited`).
-/

namespace QueryRelay

namespace TokenBucket

@[simp] theorem tryAcquire_lastSeen (b : TokenBucket) (now : Nat) :
    (b.tryAcquire now).2.lastSeen = now := by
  unfold tryAcquire
  dsimp only
  split <;> rfl

/-- A bucket asked to admit at each instant in turn: its decisions and the bucket it leaves. -/
def runAt (b : TokenBucket) : List Nat → List Bool × TokenBucket
  | [] => ([], b)
  | t :: ts =>
    let (ok, b₁) := b.tryAcquire t
    let (oks, b₂) := b₁.runAt ts
    (ok :: oks, b₂)

@[simp] theorem runAt_nil (b : TokenBucket) : b.runAt [] = ([], b) := rfl

theorem runAt_cons (b : TokenBucket) (t : Nat) (ts : List Nat) :
    b.runAt (t :: ts) =
      ((b.tryAcquire t).1 :: ((b.tryAcquire t).2.runAt ts).1, ((b.tryAcquire t).2.runAt ts).2) :=
  rfl

end TokenBucket

namespace RateLimiter

/-! ## One client's buckets -/

/-- Client `A`'s buckets in a client list, in order. -/
def ownBuckets (A : String) (cs : List (String × TokenBucket)) : List TokenBucket :=
  (cs.filter (fun e => e.1 == A)).map Prod.snd

/-- Client `A`'s admission at `now`, on its own buckets: the first one is asked, and when there
is none a full bucket is made and asked. -/
def admitOwn (capacity rate : Float) (now : Nat) : List TokenBucket → Bool × List TokenBucket
  | [] =>
    let b := TokenBucket.full capacity rate now
    ((b.tryAcquire now).1, [(b.tryAcquire now).2])
  | b :: rest => ((b.tryAcquire now).1, (b.tryAcquire now).2 :: rest)

@[simp] theorem ownBuckets_nil (A : String) : ownBuckets A [] = [] := rfl

theorem ownBuckets_cons_self (A : String) (b : TokenBucket) (cs : List (String × TokenBucket)) :
    ownBuckets A ((A, b) :: cs) = b :: ownBuckets A cs := by
  simp [ownBuckets]

theorem ownBuckets_cons_of_ne {A k : String} (h : k ≠ A) (b : TokenBucket)
    (cs : List (String × TokenBucket)) : ownBuckets A ((k, b) :: cs) = ownBuckets A cs := by
  simp [ownBuckets, h]

/-- **An admission as seen by its client.** Taking a token for `A` decides as `admitOwn` does on
`A`'s own buckets and leaves `A` with the buckets `admitOwn` gives. -/
theorem acquireIn_own (capacity rate : Float) (A : String) (now : Nat)
    (cs : List (String × TokenBucket)) :
    (acquireIn capacity rate A now cs).1 = (admitOwn capacity rate now (ownBuckets A cs)).1 ∧
      ownBuckets A (acquireIn capacity rate A now cs).2 =
        (admitOwn capacity rate now (ownBuckets A cs)).2 := by
  induction cs with
  | nil => exact ⟨rfl, ownBuckets_cons_self A _ []⟩
  | cons e rest ih =>
    obtain ⟨k, b⟩ := e
    by_cases hk : k = A
    · -- `A`'s first bucket is the one asked; the rest of the list is kept
      subst hk
      simp only [acquireIn, ownBuckets_cons_self]
      exact ⟨rfl, ownBuckets_cons_self k _ rest⟩
    · simp only [acquireIn, if_neg hk, ownBuckets_cons_of_ne hk]
      exact ih

/-- An admission of another client leaves `A`'s buckets as they are. -/
theorem ownBuckets_acquireIn_of_ne (capacity rate : Float) {id A : String} (h : id ≠ A)
    (now : Nat) (cs : List (String × TokenBucket)) :
    ownBuckets A (acquireIn capacity rate id now cs).2 = ownBuckets A cs := by
  induction cs with
  | nil => exact ownBuckets_cons_of_ne h _ []
  | cons e rest ih =>
    obtain ⟨k, b⟩ := e
    by_cases hk : k = id
    · subst hk
      simp only [acquireIn, ↓reduceIte, ownBuckets_cons_of_ne h]
    · simp only [acquireIn, if_neg hk]
      by_cases hkA : k = A
      · subst hkA
        rw [ownBuckets_cons_self, ownBuckets_cons_self, ih]
      · rw [ownBuckets_cons_of_ne hkA, ownBuckets_cons_of_ne hkA, ih]

/-- Keeping the entries whose bucket passes a test keeps `A`'s buckets that pass it. -/
theorem ownBuckets_filter (A : String) (p : TokenBucket → Bool) (cs : List (String × TokenBucket)) :
    ownBuckets A (cs.filter (fun e => p e.2)) = (ownBuckets A cs).filter p := by
  simp only [ownBuckets, List.filter_map, List.filter_filter]
  congr 2
  funext e
  exact Bool.and_comm _ _

/-! ## The limiter's calls as one client sees them -/

/-- Without an override, an admission takes a token in the client list. -/
theorem allowClient_of_deny_none {l : RateLimiter} (h : l.deny = none) (id : String) (now : Nat) :
    l.allowClient id now = ((acquireIn l.capacity l.ratePerSec id now l.clients).1,
      { l with clients := (acquireIn l.capacity l.ratePerSec id now l.clients).2 }) := by
  simp only [allowClient, h]

/-- With an override, an admission is its decision and changes nothing. -/
theorem allowClient_of_deny_some {l : RateLimiter} {refused : List String}
    (h : l.deny = some refused) (id : String) (now : Nat) :
    l.allowClient id now = (!refused.contains id, l) := by
  simp only [allowClient, h]

/-- Only the client list changes when a client is admitted. -/
theorem allowClient_snd (l : RateLimiter) (id : String) (now : Nat) :
    (l.allowClient id now).2 = { l with clients := (l.allowClient id now).2.clients } := by
  obtain ⟨capacity, rate, ret, global, clients, deny⟩ := l
  cases deny with
  | none => rw [allowClient_of_deny_none rfl]
  | some refused => rw [allowClient_of_deny_some rfl]

/-- A client's decision is the override's, or else is made by `admitOwn` on the client's own
buckets with the limiter's settings. -/
theorem allowClient_fst (l : RateLimiter) (A : String) (now : Nat) :
    (l.allowClient A now).1 = match l.deny with
      | some refused => !refused.contains A
      | none => (admitOwn l.capacity l.ratePerSec now (ownBuckets A l.clients)).1 := by
  rcases hd : l.deny with _ | refused
  · rw [allowClient_of_deny_none hd]
    exact (acquireIn_own _ _ A now l.clients).1
  · rw [allowClient_of_deny_some hd]

theorem ownBuckets_allowClient_self (l : RateLimiter) (A : String) (now : Nat) :
    ownBuckets A (l.allowClient A now).2.clients = match l.deny with
      | some _ => ownBuckets A l.clients
      | none => (admitOwn l.capacity l.ratePerSec now (ownBuckets A l.clients)).2 := by
  rcases hd : l.deny with _ | refused
  · rw [allowClient_of_deny_none hd]
    exact (acquireIn_own _ _ A now l.clients).2
  · rw [allowClient_of_deny_some hd]

/-- An admission of another client leaves `A`'s buckets as they are. -/
theorem ownBuckets_allowClient_of_ne (l : RateLimiter) {id A : String} (h : id ≠ A) (now : Nat) :
    ownBuckets A (l.allowClient id now).2.clients = ownBuckets A l.clients := by
  rcases hd : l.deny with _ | refused
  · rw [allowClient_of_deny_none hd]
    exact ownBuckets_acquireIn_of_ne _ _ h now l.clients
  · rw [allowClient_of_deny_some hd]

/-- A sweep keeps `A`'s buckets asked less than the retention period ago, as they are. -/
theorem ownBuckets_cleanup (l : RateLimiter) (A : String) (now : Nat) :
    ownBuckets A (l.cleanup now).2.clients =
      (ownBuckets A l.clients).filter (fun b => decide (b.idleFor now < l.retentionMs)) :=
  ownBuckets_filter A (fun b => decide (b.idleFor now < l.retentionMs)) l.clients

/-- A sweep answers the number of clients it drops: those asked at least the retention period
ago. -/
theorem cleanup_fst (l : RateLimiter) (now : Nat) :
    (l.cleanup now).1 =
      (l.clients.filter (fun e => decide (l.retentionMs ≤ now - e.2.lastSeen))).length := by
  have hsplit := @List.length_eq_length_filter_add _ l.clients
    (fun e : String × TokenBucket => decide (e.2.idleFor now < l.retentionMs))
  have hnot : (fun e : String × TokenBucket => !decide (e.2.idleFor now < l.retentionMs)) =
      fun e => decide (l.retentionMs ≤ now - e.2.lastSeen) := by
    funext e
    unfold TokenBucket.idleFor
    by_cases h : l.retentionMs ≤ now - e.2.lastSeen
    · simp [h]
    · simp [h, Nat.lt_of_not_le h]
  rw [hnot] at hsplit
  unfold cleanup
  dsimp only
  omega

/-- Two limiters client `A` cannot tell apart: the same settings and override, and the same
buckets for `A`. -/
structure SameFor (A : String) (l₁ l₂ : RateLimiter) : Prop where
  capacity : l₁.capacity = l₂.capacity
  ratePerSec : l₁.ratePerSec = l₂.ratePerSec
  retentionMs : l₁.retentionMs = l₂.retentionMs
  deny : l₁.deny = l₂.deny
  own : ownBuckets A l₁.clients = ownBuckets A l₂.clients

namespace SameFor

variable {A : String} {l₁ l₂ l₃ : RateLimiter}

theorem refl (l : RateLimiter) : SameFor A l l := ⟨rfl, rfl, rfl, rfl, rfl⟩

theorem trans (h₁ : SameFor A l₁ l₂) (h₂ : SameFor A l₂ l₃) : SameFor A l₁ l₃ :=
  ⟨h₁.1.trans h₂.1, h₁.2.trans h₂.2, h₁.3.trans h₂.3, h₁.4.trans h₂.4, h₁.5.trans h₂.5⟩

/-- Limiters `A` cannot tell apart give `A` the same decision. -/
theorem allowClient_fst (h : SameFor A l₁ l₂) (now : Nat) :
    (l₁.allowClient A now).1 = (l₂.allowClient A now).1 := by
  rw [RateLimiter.allowClient_fst, RateLimiter.allowClient_fst, h.capacity, h.ratePerSec, h.deny,
    h.own]

/-- ... and stay so once `A` is admitted in both. -/
theorem allowClient_snd (h : SameFor A l₁ l₂) (now : Nat) :
    SameFor A (l₁.allowClient A now).2 (l₂.allowClient A now).2 := by
  rw [RateLimiter.allowClient_snd l₁, RateLimiter.allowClient_snd l₂]
  refine ⟨h.capacity, h.ratePerSec, h.retentionMs, h.deny, ?_⟩
  show ownBuckets A (l₁.allowClient A now).2.clients = ownBuckets A (l₂.allowClient A now).2.clients
  rw [ownBuckets_allowClient_self, ownBuckets_allowClient_self, h.capacity, h.ratePerSec, h.deny,
    h.own]

theorem cleanup (h : SameFor A l₁ l₂) (now : Nat) :
    SameFor A (l₁.cleanup now).2 (l₂.cleanup now).2 := by
  refine ⟨h.capacity, h.ratePerSec, h.retentionMs, h.deny, ?_⟩
  rw [ownBuckets_cleanup, ownBuckets_cleanup, h.own, h.retentionMs]

end SameFor

/-- An admission of another client leaves a limiter `A` cannot tell from the one before. -/
theorem sameFor_allowClient_of_ne (l : RateLimiter) {id A : String} (h : id ≠ A) (now : Nat) :
    SameFor A (l.allowClient id now).2 l := by
  rw [allowClient_snd]
  exact ⟨rfl, rfl, rfl, rfl, ownBuckets_allowClient_of_ne l h now⟩

/-! ## Histories -/

/-- A call on the client buckets: a client asks to be admitted, or idle clients are swept. -/
inductive ClientCall where
  | request (id : String)
  | sweep
  deriving DecidableEq, Repr

/-- What a call on the client buckets answers. -/
inductive ClientAnswer where
  | decision (ok : Bool)
  | swept (n : Nat)
  deriving DecidableEq, Repr

/-- Whether a call may matter to client `A`: its own admissions, and every sweep. -/
def ClientCall.concerns (A : String) : ClientCall → Bool
  | .request id => id == A
  | .sweep => true

/-- Whether an answer admitted a request. -/
def ClientAnswer.admitted : ClientAnswer → Bool
  | .decision ok => ok
  | .swept _ => false

/-- One call at instant `t`. -/
def call (l : RateLimiter) (t : Nat) : ClientCall → ClientAnswer × RateLimiter
  | .request id => (.decision (l.allowClient id t).1, (l.allowClient id t).2)
  | .sweep => (.swept (l.cleanup t).1, (l.cleanup t).2)

/-- Run a history of calls, each at its instant: the answers in order and the limiter left. -/
def run (l : RateLimiter) : List (Nat × ClientCall) → List ClientAnswer × RateLimiter
  | [] => ([], l)
  | (t, c) :: rest =>
    let step := l.call t c
    let after := step.2.run rest
    (step.1 :: after.1, after.2)

/-- The decisions client `A` got in a history, read off its answers in order. -/
def decisionsFor (A : String) : List (Nat × ClientCall) → List ClientAnswer → List Bool
  | (_, .request id) :: cs, .decision ok :: as =>
    if id = A then ok :: decisionsFor A cs as else decisionsFor A cs as
  | _ :: cs, _ :: as => decisionsFor A cs as
  | _, _ => []

/-- **Clients do not see each other.** Over every history, the decisions client `A` gets are
those of the history that keeps only `A`'s admissions and the sweeps, run from a limiter `A`
cannot tell apart. -/
theorem decisionsFor_run_of_sameFor (A : String) (calls : List (Nat × ClientCall)) :
    ∀ {l₁ l₂ : RateLimiter}, SameFor A l₁ l₂ →
      decisionsFor A calls (l₁.run calls).1 =
        decisionsFor A (calls.filter (fun c => c.2.concerns A))
          (l₂.run (calls.filter (fun c => c.2.concerns A))).1 := by
  -- on the history; the two limiters stay indistinguishable to `A` after every call
  induction calls with
  | nil => intro l₁ l₂ _; rfl
  | cons c rest ih =>
    intro l₁ l₂ h
    obtain ⟨t, c⟩ := c
    cases c with
    | request id =>
      by_cases hid : id = A
      · subst hid
        have hkeep : (fun c : Nat × ClientCall => c.2.concerns id) (t, .request id) = true := by
          simp [ClientCall.concerns]
        rw [List.filter_cons, if_pos hkeep]
        simp only [run, call, decisionsFor, h.allowClient_fst t]
        rw [ih (h.allowClient_snd t)]
      · have hdrop : ClientCall.concerns A (.request id) = false := by
          simp [ClientCall.concerns, hid]
        rw [List.filter_cons_of_neg (by simp [hdrop])]
        simp only [run, call, decisionsFor, if_neg hid]
        exact ih ((sameFor_allowClient_of_ne l₁ hid t).trans h)
    | sweep =>
      have hkeep : (fun c : Nat × ClientCall => c.2.concerns A) (t, .sweep) = true := rfl
      rw [List.filter_cons, if_pos hkeep]
      simp only [run, call, decisionsFor]
      exact ih (h.cleanup t)

/-! ## When a bucket was last asked -/

/-- The instant of client `A`'s last admission in a history, if it has one. -/
def lastAdmission (A : String) : List (Nat × ClientCall) → Option Nat
  | [] => none
  | (t, c) :: rest => (lastAdmission A rest).or (if c = .request A then some t else none)

/-- With at most one bucket, `A`'s admission leaves exactly one, asked at that instant. -/
theorem admitOwn_snd_of_length_le {capacity rate : Float} {now : Nat} {bs : List TokenBucket}
    (h : bs.length ≤ 1) : ∃ b, (admitOwn capacity rate now bs).2 = [b] ∧ b.lastSeen = now := by
  match bs, h with
  | [], _ => exact ⟨_, rfl, TokenBucket.tryAcquire_lastSeen _ now⟩
  | [b], _ => exact ⟨_, rfl, TokenBucket.tryAcquire_lastSeen b now⟩

/-- A call leaves a client at most one bucket if it had at most one. -/
theorem length_ownBuckets_call_le (l : RateLimiter) (A : String) (t : Nat) (c : ClientCall)
    (h : (ownBuckets A l.clients).length ≤ 1) :
    (ownBuckets A (l.call t c).2.clients).length ≤ 1 := by
  cases c with
  | request id =>
    by_cases hid : id = A
    · subst hid
      show (ownBuckets id (l.allowClient id t).2.clients).length ≤ 1
      rw [ownBuckets_allowClient_self]
      split
      · exact h
      · obtain ⟨b, hb, -⟩ := @admitOwn_snd_of_length_le l.capacity l.ratePerSec t _ h
        rw [hb]
        exact Nat.le_refl 1
    · show (ownBuckets A (l.allowClient id t).2.clients).length ≤ 1
      rw [ownBuckets_allowClient_of_ne l hid]
      exact h
  | sweep =>
    show (ownBuckets A (l.cleanup t).2.clients).length ≤ 1
    rw [ownBuckets_cleanup]
    exact Nat.le_trans (List.length_filter_le _ _) h

@[simp] theorem call_deny (l : RateLimiter) (t : Nat) (c : ClientCall) :
    (l.call t c).2.deny = l.deny := by
  cases c with
  | request id => simp only [call]; rw [allowClient_snd]
  | sweep => rfl

@[simp] theorem run_deny (l : RateLimiter) (calls : List (Nat × ClientCall)) :
    (l.run calls).2.deny = l.deny := by
  induction calls generalizing l with
  | nil => rfl
  | cons c rest ih =>
    obtain ⟨t, c⟩ := c
    exact (ih (l.call t c).2).trans (call_deny l t c)

/-- **Buckets remember the last admission.** Without an override, from a limiter holding at
most one bucket for `A`, every bucket `A` holds after a history was last asked at `A`'s last
admission in it; a client never admitted in it keeps a bucket it held before. -/
theorem lastSeen_run (A : String) (calls : List (Nat × ClientCall)) :
    ∀ (l : RateLimiter), l.deny = none → (ownBuckets A l.clients).length ≤ 1 →
      ∀ b ∈ ownBuckets A (l.run calls).2.clients,
        lastAdmission A calls = some b.lastSeen ∨
          lastAdmission A calls = none ∧ b ∈ ownBuckets A l.clients := by
  -- on the history: the last call that admits `A` stamps its bucket, and nothing after it
  -- touches the bucket but a sweep that drops it
  induction calls with
  | nil => intro l _ _ b hb; exact .inr ⟨rfl, hb⟩
  | cons c rest ih =>
    intro l hdeny hone b hb
    obtain ⟨t, c⟩ := c
    have hdeny₁ : (l.call t c).2.deny = none := (call_deny l t c).trans hdeny
    rcases ih (l.call t c).2 hdeny₁ (length_ownBuckets_call_le l A t c hone) b hb with
      hlast | ⟨hnone, hmem⟩
    · exact .inl (by simp [lastAdmission, hlast])
    · simp only [lastAdmission, hnone, Option.none_or]
      cases c with
      | request id =>
        by_cases hid : id = A
        · subst hid
          have hown : ownBuckets id (l.call t (.request id)).2.clients =
              (admitOwn l.capacity l.ratePerSec t (ownBuckets id l.clients)).2 := by
            show ownBuckets id (l.allowClient id t).2.clients = _
            rw [ownBuckets_allowClient_self, hdeny]
          obtain ⟨b', hb', hseen⟩ :=
            @admitOwn_snd_of_length_le l.capacity l.ratePerSec t _ hone
          rw [hown, hb', List.mem_singleton] at hmem
          subst hmem
          exact .inl (by simp [hseen])
        · have hown : ownBuckets A (l.call t (.request id)).2.clients = ownBuckets A l.clients :=
            ownBuckets_allowClient_of_ne l hid t
          rw [hown] at hmem
          exact .inr ⟨by simp [hid], hmem⟩
      | sweep =>
        have hown : ownBuckets A (l.call t .sweep).2.clients =
            (ownBuckets A l.clients).filter (fun b => decide (b.idleFor t < l.retentionMs)) :=
          ownBuckets_cleanup l A t
        rw [hown] at hmem
        exact .inr ⟨rfl, List.mem_of_mem_filter hmem⟩

/-! ## The middleware -/

/-- The middleware's check of a request of client `id` at `t`: the client's bucket, and the
global bucket only when the client's admitted the request. Whether the request passes, and the
limiter it leaves. -/
def gate (l : RateLimiter) (t : Nat) (id : String) : Bool × RateLimiter :=
  let c := l.allowClient id t
  if c.1 then c.2.allow t else (false, c.2)

/-- The middleware's checks of a history of requests, each at its instant. -/
def gateRun (l : RateLimiter) : List (Nat × String) → List Bool × RateLimiter
  | [] => ([], l)
  | (t, id) :: rest =>
    let step := l.gate t id
    let after := step.2.gateRun rest
    (step.1 :: after.1, after.2)

/-- The final decisions of a history from its clients' decisions and the global bucket's
answers to the requests the clients admitted, in order. -/
def passes : List Bool → List Bool → List Bool
  | [], _ => []
  | false :: cs, gs => false :: passes cs gs
  | true :: cs, gs => gs.headD false :: passes cs gs.tail

/-- Without an override, a request refused by its client's bucket leaves the global bucket
alone, and one admitted by it takes a token from the global bucket at the same instant. -/
theorem gate_of_deny_none {l : RateLimiter} (h : l.deny = none) (t : Nat) (id : String) :
    l.gate t id = if (l.allowClient id t).1 then
        ((l.global.tryAcquire t).1,
          { (l.allowClient id t).2 with global := (l.global.tryAcquire t).2 })
      else (false, (l.allowClient id t).2) := by
  have hframe := allowClient_snd l id t
  unfold gate
  dsimp only
  split
  · rw [hframe]
    simp only [allow, h]
  · rfl

/-- The client buckets do not read the global bucket: with another one, an admission decides
the same and changes the same. -/
theorem allowClient_with_global (l : RateLimiter) (b : TokenBucket) (id : String) (t : Nat) :
    ({ l with global := b }).allowClient id t =
      ((l.allowClient id t).1, { (l.allowClient id t).2 with global := b }) := by
  obtain ⟨capacity, rate, ret, global, clients, deny⟩ := l
  cases deny with
  | none =>
    rw [allowClient_of_deny_none rfl, allowClient_of_deny_none rfl]
  | some refused =>
    rw [allowClient_of_deny_some rfl, allowClient_of_deny_some rfl]

/-- Running the client calls of a limiter with another global bucket gives the same answers and
the same clients. -/
theorem run_with_global (l : RateLimiter) (b : TokenBucket) (calls : List (Nat × ClientCall)) :
    ({ l with global := b }.run calls).1 = (l.run calls).1 ∧
      ({ l with global := b }.run calls).2 = { (l.run calls).2 with global := b } := by
  induction calls generalizing l with
  | nil => exact ⟨rfl, rfl⟩
  | cons c rest ih =>
    obtain ⟨t, c⟩ := c
    have hstep : ({ l with global := b }.call t c) =
        ((l.call t c).1, { (l.call t c).2 with global := b }) := by
      cases c with
      | request id => simp only [call, allowClient_with_global]
      | sweep => rfl
    have ih' := ih (l.call t c).2
    constructor
    · simp only [run, hstep]
      rw [ih'.1]
    · simp only [run, hstep]
      rw [ih'.2]

/-- **The global bucket sees only what the clients admitted.** Without an override, over a
history of requests, the clients' buckets decide as the client calls alone would, the global
bucket answers exactly the instants of the requests their clients admitted and ends as those
answers leave it, and a request passes when its client's bucket and then the global bucket
admit it. -/
theorem gateRun_global {l : RateLimiter} (h : l.deny = none) (reqs : List (Nat × String)) :
    let admissions := reqs.map (fun r => (r.1, ClientCall.request r.2))
    let clientOk := (l.run admissions).1.map ClientAnswer.admitted
    let admittedAt := (reqs.zip clientOk).filterMap (fun x => if x.2 then some x.1.1 else none)
    (l.gateRun reqs).1 = passes clientOk (l.global.runAt admittedAt).1 ∧
      (l.gateRun reqs).2 = { (l.run admissions).2 with global := (l.global.runAt admittedAt).2 } := by
  -- on the history, for every limiter without an override
  induction reqs generalizing l with
  | nil => exact ⟨rfl, rfl⟩
  | cons r rest ih =>
    obtain ⟨t, id⟩ := r
    have hframe := allowClient_snd l id t
    have hdeny₁ : (l.allowClient id t).2.deny = none := by rw [hframe]; exact h
    simp only [List.map_cons, gateRun, run, call, List.zip_cons_cons, List.filterMap_cons,
      ClientAnswer.admitted, gate_of_deny_none h]
    by_cases hok : (l.allowClient id t).1 = true
    · -- admitted by its client: the global bucket answers at `t`
      simp only [hok, if_pos, TokenBucket.runAt_cons, passes, List.headD_cons, List.tail_cons]
      have hdeny₂ : ({ (l.allowClient id t).2 with global := (l.global.tryAcquire t).2 }
          : RateLimiter).deny = none := hdeny₁
      obtain ⟨ih₁, ih₂⟩ := ih hdeny₂
      obtain ⟨hw₁, hw₂⟩ := run_with_global (l.allowClient id t).2 (l.global.tryAcquire t).2
        (rest.map (fun r => (r.1, ClientCall.request r.2)))
      rw [ih₁, ih₂, hw₁, hw₂]
      exact ⟨rfl, rfl⟩
    · have hno : (l.allowClient id t).1 = false := by simpa using hok
      simp only [hno, Bool.false_eq_true, ↓reduceIte, passes]
      obtain ⟨ih₁, ih₂⟩ := ih hdeny₁
      have hglobal : (l.allowClient id t).2.global = l.global := by rw [hframe]
      rw [ih₁, ih₂, hglobal]
      exact ⟨rfl, rfl⟩

end RateLimiter

namespace Gateway

open GatewayM

/-- Passing the limiter is the middleware's check at the gateway's instant, for the request's
client. -/
theorem exec_passLimiter (req : HttpRequest) (g : Gateway) (l : RateLimiter) :
    (passLimiter req).exec { g with limiter := some l } =
      (.ok (if (l.gate g.clock (Http.clientId req.headers req.peer)).1 then none
        else some (Http.failureResponse .rateLimited none)),
        { g with limiter := some (l.gate g.clock (Http.clientId req.headers req.peer)).2 }) := by
  unfold passLimiter RateLimiter.gate
  rw [exec_get_bind]
  dsimp only
  generalize l.allowClient (Http.clientId req.headers req.peer) g.clock = c
  rcases c with ⟨ok, l'⟩
  cases ok with
  | false => rfl
  | true =>
    simp only [↓reduceIte]
    rfl

/-- **A request reaches its handler exactly when both buckets admit it.** A request to a
rate-limited endpoint is served by the endpoint, in the state the limiter's check left, when
the check passes, and is refused with the rate-limit answer otherwise. -/
theorem exec_serveHttp_limited {req : HttpRequest} {e : Http.Endpoint}
    (hm : (req.method == "OPTIONS") = false)
    (hd : Http.dispatch req.method (Http.pathOf req.target) = .endpoint e true)
    (g : Gateway) (l : RateLimiter) :
    let r := l.gate g.clock (Http.clientId req.headers req.peer)
    let strip (x : HttpResponse) : HttpResponse :=
      if req.method == "HEAD" then { x with body := .empty } else x
    (serveHttp req).exec { g with limiter := some l } =
      if r.1 then
        ((do let x ← serveEndpoint req e; pure (strip x)) : GatewayM HttpResponse).exec
          { g with limiter := some r.2 }
      else (.ok (strip (Http.failureResponse .rateLimited none)), { g with limiter := some r.2 }) := by
  dsimp only
  unfold serveHttp
  simp only [hm, hd, Bool.false_eq_true, ↓reduceIte]
  rw [exec_bind, exec_passLimiter]
  by_cases hr : (l.gate g.clock (Http.clientId req.headers req.peer)).1 = true
  · simp only [hr, ↓reduceIte]
  · simp only [hr, Bool.false_eq_true, ↓reduceIte]
    rfl

end Gateway

namespace RateLimiter

/-! ## The limiter as the gateway uses it -/

/-- **Client admission is isolated per client.** For a limiter made without an override:

* over every history of admissions and sweeps, at any instants, a client gets the decisions it
  would get if only its own admissions and the sweeps had happened (this holds of every
  limiter);
* in every state a history reaches, a client without a bucket is admitted by a full bucket
  made for it, another client's admission leaves its buckets as they are, and a sweep keeps
  them unchanged or drops them;
* every bucket was last asked at its client's last admission, and a sweep at `t` keeps the
  clients asked less than the retention period before `t`, drops the others and answers how
  many it dropped;
* the middleware asks the global bucket exactly at the instants of the requests their clients
  admitted, and a request to a limited endpoint reaches the endpoint exactly when both buckets
  admit it. -/
theorem client_admission_isolated (rpm burst retentionSecs now₀ : Nat) :
    (∀ (l : RateLimiter) (A : String) (calls : List (Nat × ClientCall)),
      decisionsFor A calls (l.run calls).1 =
        decisionsFor A (calls.filter (fun c => c.2.concerns A))
          (l.run (calls.filter (fun c => c.2.concerns A))).1) ∧
    (∀ (calls : List (Nat × ClientCall)) (A : String) (t : Nat),
      let l := ((create rpm burst retentionSecs now₀).run calls).2
      (ownBuckets A l.clients = [] →
        (l.allowClient A t).1 = ((TokenBucket.full l.capacity l.ratePerSec t).tryAcquire t).1 ∧
        ownBuckets A (l.allowClient A t).2.clients =
          [((TokenBucket.full l.capacity l.ratePerSec t).tryAcquire t).2]) ∧
      (∀ B, B ≠ A → ownBuckets A (l.allowClient B t).2.clients = ownBuckets A l.clients) ∧
      ownBuckets A (l.cleanup t).2.clients =
        (ownBuckets A l.clients).filter (fun b => decide (b.idleFor t < l.retentionMs))) ∧
    (∀ (calls : List (Nat × ClientCall)) (A : String),
      ∀ b ∈ ownBuckets A ((create rpm burst retentionSecs now₀).run calls).2.clients,
        lastAdmission A calls = some b.lastSeen) ∧
    (∀ (calls : List (Nat × ClientCall)) (t : Nat),
      let l := ((create rpm burst retentionSecs now₀).run calls).2
      (l.cleanup t).1 =
          (l.clients.filter (fun e => decide (l.retentionMs ≤ t - e.2.lastSeen))).length ∧
        (l.cleanup t).2.clients =
          l.clients.filter (fun e => decide (t - e.2.lastSeen < l.retentionMs))) ∧
    (∀ reqs : List (Nat × String),
      let admissions := reqs.map (fun r => (r.1, ClientCall.request r.2))
      let clientOk :=
        ((create rpm burst retentionSecs now₀).run admissions).1.map ClientAnswer.admitted
      let admittedAt := (reqs.zip clientOk).filterMap (fun x => if x.2 then some x.1.1 else none)
      let globalRun := (create rpm burst retentionSecs now₀).global.runAt admittedAt
      ((create rpm burst retentionSecs now₀).gateRun reqs).1 = passes clientOk globalRun.1 ∧
        ((create rpm burst retentionSecs now₀).gateRun reqs).2 =
          { ((create rpm burst retentionSecs now₀).run admissions).2 with global := globalRun.2 }) ∧
    (∀ (req : HttpRequest) (e : Http.Endpoint) (g : Gateway) (l : RateLimiter),
      (req.method == "OPTIONS") = false →
      Http.dispatch req.method (Http.pathOf req.target) = .endpoint e true →
      let r := l.gate g.clock (Http.clientId req.headers req.peer)
      let strip (x : HttpResponse) : HttpResponse :=
        if req.method == "HEAD" then { x with body := .empty } else x
      (Gateway.serveHttp req).exec { g with limiter := some l } =
        if r.1 then
          ((do let x ← Gateway.serveEndpoint req e; pure (strip x)) : GatewayM HttpResponse).exec
            { g with limiter := some r.2 }
        else (.ok (strip (Http.failureResponse .rateLimited none)), { g with limiter := some r.2 })) := by
  have hdeny₀ : (create rpm burst retentionSecs now₀).deny = none := rfl
  refine ⟨fun l A calls => decisionsFor_run_of_sameFor A calls (SameFor.refl l), ?_, ?_, ?_,
    fun reqs => gateRun_global hdeny₀ reqs,
    fun req e g l hm hd => Gateway.exec_serveHttp_limited hm hd g l⟩
  · intro calls A t l
    have hdeny : l.deny = none := (run_deny _ calls).trans hdeny₀
    refine ⟨fun hnone => ?_, fun B hB => ownBuckets_allowClient_of_ne l hB t,
      ownBuckets_cleanup l A t⟩
    -- with no bucket, `admitOwn` makes a full one
    have hfst := allowClient_fst l A t
    have hsnd := ownBuckets_allowClient_self l A t
    rw [hdeny, hnone] at hfst hsnd
    exact ⟨hfst, hsnd⟩
  · intro calls A b hb
    rcases lastSeen_run A calls _ hdeny₀ (Nat.zero_le 1) b hb with hlast | ⟨-, hmem⟩
    · exact hlast
    · exact absurd hmem List.not_mem_nil
  · intro calls t l
    exact ⟨cleanup_fst l t, rfl⟩

/-- A query sent to the gateway is checked by the limiter before it reaches its endpoint. -/
theorem client_admission_isolated_on_query_route :
    let req : HttpRequest := { method := "POST", target := "/v1/query" }
    let g : Gateway := { router := { rng := Random.Rng.ofSeed 0 }, store := .counting {} }
    let l := create 60 5 30 0
    (req.method == "OPTIONS") = false ∧
      Http.dispatch req.method (Http.pathOf req.target) = .endpoint .query true ∧
      (Gateway.serveHttp req).exec { g with limiter := some l } =
        if (l.gate g.clock (Http.clientId req.headers req.peer)).1 then
          ((do let x ← Gateway.serveEndpoint req .query
               pure (if req.method == "HEAD" then { x with body := .empty } else x)) :
              GatewayM HttpResponse).exec
            { g with limiter := some (l.gate g.clock (Http.clientId req.headers req.peer)).2 }
        else (.ok (if req.method == "HEAD" then
                { Http.failureResponse .rateLimited none with body := .empty }
              else Http.failureResponse .rateLimited none),
            { g with limiter := some (l.gate g.clock (Http.clientId req.headers req.peer)).2 }) := by
  intro req g l
  have hm : (req.method == "OPTIONS") = false := by decide
  have hd : Http.dispatch req.method (Http.pathOf req.target) = .endpoint .query true := by
    show Http.dispatch "POST" (Http.pathOf "/v1/query") = .endpoint .query true
    rfl
  exact ⟨hm, hd, (client_admission_isolated 0 0 0 0).2.2.2.2.2 req .query g l hm hd⟩

end RateLimiter

end QueryRelay
