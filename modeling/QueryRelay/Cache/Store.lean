import QueryRelay.Cache.Memory

/-!
# Response stores

The gateway keeps responses in a store, keyed by the request's cache key. A store answers three
operations, a lookup, a write and a flush, each of which may fail with a cache error. The model
has:

* the in-memory cache (`MemoryCache`);
* a counting store, which keeps every response under its key for good and counts its lookups
  and stores;
* a failing store, whose every operation fails with a cache error ("connection refused");
* a scripted store (`ScriptedStore`), which stands for any other implementation of the three
  operations, a store on another server among them: every operation takes its answer from a
  script given in advance, so a lookup may hit, miss or fail and a write may succeed or fail in
  any order.
-/

namespace QueryRelay

/-- A store that keeps everything and counts its lookups and stores. -/
structure CountingStore where
  entries : List (String × Response) := []
  gets : Nat := 0
  sets : Nat := 0
  deriving DecidableEq, Repr, Inhabited

namespace CountingStore

/-- Put a response under a key, in place of the one before. -/
def put (key : String) (r : Response) : List (String × Response) → List (String × Response)
  | [] => [(key, r)]
  | (k, v) :: rest => if k = key then (key, r) :: rest else (k, v) :: put key r rest

end CountingStore

/-- A store whose answers are scripted: each operation takes the next answer of its script, or
its standing answer once the script is used up. It records the keys looked up and the
responses written, in order. -/
structure ScriptedStore where
  gets : List (Except Failure (Option Response)) := []
  standingGet : Except Failure (Option Response) := .ok none
  sets : List (Except Failure Unit) := []
  standingSet : Except Failure Unit := .ok ()
  flushes : List (Except Failure Unit) := []
  standingFlush : Except Failure Unit := .ok ()
  /-- The keys looked up so far. -/
  reads : List String := []
  /-- The writes asked for so far, under their keys, whether they succeeded or not. -/
  writes : List (String × Response) := []
  deriving Inhabited

namespace ScriptedStore

/-- The next answer of a script, and the script left. -/
def next {α : Type} (script : List α) (standing : α) : α × List α :=
  match script with
  | a :: rest => (a, rest)
  | [] => (standing, [])

end ScriptedStore

/-- Where responses are kept. -/
inductive ResponseStore where
  | memory (c : MemoryCache)
  | counting (c : CountingStore)
  | failing
  | scripted (s : ScriptedStore)
  deriving Inhabited

namespace ResponseStore

/-- The failure of every operation of the failing store. -/
def refused : Failure := .cache "connection refused"

/-- Look a request's response up at `now`. -/
def get (s : ResponseStore) (req : Request) (now : Nat) :
    Except Failure (Option Response) × ResponseStore :=
  match s with
  | .memory c =>
    let (r, c) := c.get req.cacheKey now
    (.ok r, .memory c)
  | .counting c =>
    let found := (c.entries.find? (fun e => e.1 == req.cacheKey)).map Prod.snd
    (.ok found, .counting { c with gets := c.gets + 1 })
  | .failing => (.error refused, s)
  | .scripted c =>
    let (r, gets) := ScriptedStore.next c.gets c.standingGet
    (r, .scripted { c with gets, reads := c.reads ++ [req.cacheKey] })

/-- Store a request's response at `now`: a failure of the store, or a crash. -/
def set (s : ResponseStore) (req : Request) (r : Response) (now : Nat) :
    Except Crash (Except Failure Unit) × ResponseStore :=
  match s with
  | .memory c =>
    let (res, c) := c.set req.cacheKey r now
    (res.map (fun _ => .ok ()), .memory c)
  | .counting c =>
    let entries := CountingStore.put req.cacheKey r c.entries
    (.ok (.ok ()), .counting { c with entries, sets := c.sets + 1 })
  | .failing => (.ok (.error refused), s)
  | .scripted c =>
    let (res, sets) := ScriptedStore.next c.sets c.standingSet
    (.ok res, .scripted { c with sets, writes := c.writes ++ [(req.cacheKey, r)] })

/-- Drop every response. -/
def flush (s : ResponseStore) : Except Failure Unit × ResponseStore :=
  match s with
  | .memory c => (.ok (), .memory c.flush)
  | .counting c => (.ok (), .counting { c with entries := [] })
  | .failing => (.error refused, s)
  | .scripted c =>
    let (res, flushes) := ScriptedStore.next c.flushes c.standingFlush
    (res, .scripted { c with flushes })

end ResponseStore

end QueryRelay
