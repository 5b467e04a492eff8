import QueryRelay.Decimal.Binary64

/-!
# IEEE operations with stated rules

The few binary64 operations whose exact rules decide an answer:

* `minNum` / `maxNum` — the smaller / larger of two values, where a NaN operand is ignored
  (the other operand is returned);
* `truncSat` — the integer part toward zero, saturated to `[0, bound]`, with NaN at `0`;
* `powi` — an integer power by binary exponentiation: square the base, multiply the
  accumulator by it at each set bit, each product rounded;
* `secondsOfMillis` — a millisecond count as seconds: whole seconds plus the remainder in
  nanoseconds divided by `10^9`.
-/

namespace QueryRelay

namespace Decimal

/-- The smaller value; a NaN operand is ignored. -/
def minNum (a b : Float) : Float :=
  if a.isNaN then b else if b.isNaN then a else if b < a then b else a

/-- The larger value; a NaN operand is ignored. -/
def maxNum (a b : Float) : Float :=
  if a.isNaN then b else if b.isNaN then a else if a < b then b else a

/-- The integer part of `m · 2^e`, rounded toward zero. -/
def truncScaled (m : Nat) (e : Int) : Nat :=
  if 0 ≤ e then m * Nat.pow 2 e.toNat else m / Nat.pow 2 (-e).toNat

/-- The integer part toward zero, clamped to `[0, bound]`; NaN and negatives give `0`,
`+∞` gives `bound`. -/
def truncSat (x : Float) (bound : Nat) : Nat :=
  match exactOf x with
  | none => if x.isNaN || x < 0 then 0 else bound
  | some e => if e.negative then 0 else min bound (truncScaled e.significand e.exponent)

/-- `base ^ n` by binary exponentiation with rounding after each product. -/
def powi (base : Float) (n : Nat) : Float :=
  let rec go (a r : Float) (k : Nat) (fuel : Nat) : Float :=
    match fuel with
    | 0 => r
    | fuel + 1 =>
      let r := if k % 2 = 1 then r * a else r
      let k := k / 2
      if k = 0 then r else go (a * a) r k fuel
  go base 1.0 n 64

/-- A whole number of milliseconds in seconds, as the sum of whole seconds and the
nanosecond remainder over `10^9`. -/
def secondsOfMillis (ms : Nat) : Float :=
  ofNatNearest (ms / 1000) + ofNatNearest (ms % 1000 * 1000000) / 1000000000.0

end Decimal

end QueryRelay
