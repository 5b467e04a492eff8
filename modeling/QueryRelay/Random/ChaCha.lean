/-!
# A seeded random stream

The router picks providers at random from a stream that is fully determined by a 64-bit seed.

* **Seeding.** The seed drives a PCG32 generator eight times; its outputs are the eight key
  words (`keyOfSeed`).
* **The stream.** Words come from the ChaCha block function with twelve rounds (six double
  rounds): the state is the four constant words, the key, a 64-bit block counter starting at
  zero and a zero stream number; each block gives sixteen words, read in order, and the next
  block has the next counter (`Rng.next`).
* **A uniform index below `n`** (`Rng.below`). A word `v` is multiplied by `n` into a 64-bit
  product; when the low half is at most `(n << lz(n)) - 1` (with `lz` the leading zero bits of
  `n` as a 32-bit word) the index is the high half, otherwise another word is drawn. A pick
  among one still draws a word (and can draw again).
-/

namespace QueryRelay

namespace Random

/-- Rotate a 32-bit word left. -/
def rotl (x : UInt32) (n : UInt32) : UInt32 := (x <<< n) ||| (x >>> (32 - n))

/-- One PCG32 step: the new state and its output word. -/
def pcgStep (state : UInt64) : UInt64 × UInt32 :=
  let state := state * 6364136223846793005 + 11634580027462260723
  let xorshifted := (((state >>> 18) ^^^ state) >>> 27).toUInt32
  let rot := (state >>> 59).toUInt32
  (state, (xorshifted >>> rot) ||| (xorshifted <<< ((32 - rot) % 32)))

/-- The eight key words a seed expands into. -/
def keyOfSeed (seed : UInt64) : List UInt32 :=
  ((List.range 8).foldl (fun (acc : UInt64 × List UInt32) _ =>
    let (s, w) := pcgStep acc.1
    (s, acc.2 ++ [w])) (seed, [])).2

/-- A ChaCha quarter round on four positions of the state. -/
def quarter (st : Array UInt32) (a b c d : Nat) : Array UInt32 :=
  let va := st.getD a 0
  let vb := st.getD b 0
  let vc := st.getD c 0
  let vd := st.getD d 0
  let va := va + vb
  let vd := rotl (vd ^^^ va) 16
  let vc := vc + vd
  let vb := rotl (vb ^^^ vc) 12
  let va := va + vb
  let vd := rotl (vd ^^^ va) 8
  let vc := vc + vd
  let vb := rotl (vb ^^^ vc) 7
  ((st.set! a va).set! b vb |>.set! c vc).set! d vd

/-- A column round and a diagonal round. -/
def doubleRound (st : Array UInt32) : Array UInt32 :=
  let st := quarter st 0 4 8 12
  let st := quarter st 1 5 9 13
  let st := quarter st 2 6 10 14
  let st := quarter st 3 7 11 15
  let st := quarter st 0 5 10 15
  let st := quarter st 1 6 11 12
  let st := quarter st 2 7 8 13
  quarter st 3 4 9 14

/-- The sixteen words of block `counter` under a key. -/
def block (key : List UInt32) (counter : Nat) : Array UInt32 :=
  let input : Array UInt32 :=
    #[0x61707865, 0x3320646e, 0x79622d32, 0x6b206574] ++ key.toArray ++
    #[(counter % Nat.pow 2 32).toUInt32, (counter / Nat.pow 2 32 % Nat.pow 2 32).toUInt32, 0, 0]
  let mixed := (List.range 6).foldl (fun st _ => doubleRound st) input
  (List.range 16).toArray.map (fun i => mixed.getD i 0 + input.getD i 0)

/-- A position in the stream of a key. -/
structure Rng where
  key : List UInt32
  counter : Nat := 0
  index : Nat := 0
  deriving DecidableEq, Repr, Inhabited

namespace Rng

/-- The stream of a seed, at its start. -/
def ofSeed (seed : Nat) : Rng := { key := keyOfSeed seed.toUInt64 }

/-- The next word and the stream after it. -/
def next (r : Rng) : UInt32 × Rng :=
  let w := (block r.key r.counter).getD r.index 0
  if r.index + 1 = 16 then (w, { r with counter := r.counter + 1, index := 0 })
  else (w, { r with index := r.index + 1 })

/-- The leading zero bits of a nonzero 32-bit number. -/
def leadingZeros (n : Nat) : Nat := 32 - (Nat.log2 n + 1)

/-- A uniform index below `n` for `0 < n < 2^32`, drawing words until one is accepted; at
most `fuel` draws. -/
def belowFuel (r : Rng) (n : Nat) : Nat → Nat × Rng
  | 0 => (0, r)
  | fuel + 1 =>
    let zone := (n * Nat.pow 2 (leadingZeros n)) % Nat.pow 2 32 - 1
    let (v, r) := r.next
    let product := v.toNat * n
    if product % Nat.pow 2 32 ≤ zone then (product / Nat.pow 2 32, r) else belowFuel r n fuel

/-- A uniform index below `n` (for `n > 0`). Each draw is accepted with probability above
one half, so the bound on draws is never reached in practice. -/
def below (r : Rng) (n : Nat) : Nat × Rng := r.belowFuel n 4096

/-- A uniform pick from a list: nothing for an empty list (and no draw). -/
def pick {α : Type} (r : Rng) (xs : List α) : Option α × Rng :=
  match xs with
  | [] => (none, r)
  | _ =>
    let (i, r) := r.below xs.length
    (xs[i]?, r)

end Rng

end Random

end QueryRelay
