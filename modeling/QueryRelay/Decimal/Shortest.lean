import QueryRelay.Decimal.Binary64

/-!
# The shortest decimal that reads back

A finite float `v = m · 2^q` owns the interval of reals that round to it: half-way to each
neighbour, ends included exactly when `m` is even (a half-way decimal goes to the even
significand). The decimal written for `v` is the one with the fewest significant digits in that
interval, and of two such the one nearer to `v`.

The search is direct and exact. For `n = 1, 2, …, 17` digits the grid `10^k` with
`k = ⌊log₁₀ v⌋ - n + 1` is fixed; if any point of the grid lies in the interval, then one of the
two grid points around `v` does, so it suffices to test those two. Seventeen digits always
succeed, so the search is a bounded loop.

`Layout` is how the chosen digits are written out (where positional notation ends, the
exponent's sign, the `.0` of an integral value); each output format of the library names its
own layout.
-/

namespace QueryRelay

namespace Decimal

/-- `a · 2^i · 10^j` compared with `b · 2^k · 10^l`, in exact arithmetic. -/
def compareScaled (a : Nat) (i j : Int) (b : Nat) (k l : Int) : Ordering :=
  let lhs := a * Nat.pow 2 (i - k).toNat * Nat.pow 10 (j - l).toNat
  let rhs := b * Nat.pow 2 (k - i).toNat * Nat.pow 10 (l - j).toNat
  compare lhs rhs

/-- `⌊m · 2^q / 10^k⌋`. -/
def floorScaled (m : Nat) (q k : Int) : Nat :=
  (m * Nat.pow 2 q.toNat * Nat.pow 10 (-k).toNat) / (Nat.pow 2 (-q).toNat * Nat.pow 10 k.toNat)

/-- `⌊log₁₀ (m · 2^q)⌋` for `m > 0`: an estimate from the bit length, then corrected. -/
def decimalExponent (m : Nat) (q : Int) : Int :=
  let estimate := Int.fdiv (((Nat.log2 m : Int) + q) * 30103) 100000
  -- the estimate is off by at most one in either direction
  let candidates := [estimate + 1, estimate, estimate - 1, estimate - 2]
  match candidates.find? (fun e => compareScaled 1 0 e m q 0 != .gt) with
  | some e => e
  | none => estimate - 2

/-- A decimal `digits · 10^exponent`. -/
structure Digits where
  digits : Nat
  exponent : Int

/-- Drop trailing zeros of the digit string into the exponent. -/
def Digits.normalize (d : Digits) : Digits :=
  (List.range 20).foldl
    (fun acc _ => if acc.digits ≠ 0 ∧ acc.digits % 10 = 0 then ⟨acc.digits / 10, acc.exponent + 1⟩
      else acc) d

/-- The interval of reals that round to `m · 2^q`, as numerators over `2^(q-2)`. -/
structure Interval where
  low : Nat
  high : Nat
  closed : Bool

/-- The rounding interval of a positive finite float from its exact parts. -/
def Exact.interval (x : Exact) : Interval :=
  let m := x.significand
  -- at a power of two the gap below is half the gap above
  let low := if m = Nat.pow 2 fractionBits ∧ x.biased > 1 then 4 * m - 1 else 4 * m - 2
  ⟨low, 4 * m + 2, m % 2 == 0⟩

/-- Whether `d · 10^k` lies in the rounding interval of `m · 2^q`. -/
def Interval.contains (iv : Interval) (q : Int) (d : Nat) (k : Int) : Bool :=
  let lo := compareScaled d 0 k iv.low (q - 2) 0
  let hi := compareScaled d 0 k iv.high (q - 2) 0
  let aboveLow := lo == .gt || (iv.closed && lo == .eq)
  let belowHigh := hi == .lt || (iv.closed && hi == .eq)
  aboveLow && belowHigh

/-- Of two candidate digit strings on the grid `10^k`, the one nearer to `m · 2^q`
(the even one on an exact tie). -/
def nearer (m : Nat) (q k : Int) (d : Nat) : Nat :=
  -- distance of d·10^k and (d+1)·10^k from v, compared as 2v against (2d+1)·10^k
  match compareScaled (2 * m) q 0 (2 * d + 1) 0 k with
  | .lt => d
  | .gt => d + 1
  | .eq => if d % 2 = 0 then d else d + 1

/-- The shortest digits for a positive finite float given by its exact parts. -/
def Exact.shortest (x : Exact) : Digits :=
  let m := x.significand
  let q := x.exponent
  let iv := x.interval
  let top := decimalExponent m q
  let attempt (n : Nat) : Option Digits :=
    let k := top - n + 1
    let d := floorScaled m q k
    let lowIn := iv.contains q d k
    let highIn := iv.contains q (d + 1) k
    if lowIn && highIn then some ⟨nearer m q k d, k⟩
    else if lowIn then some ⟨d, k⟩
    else if highIn then some ⟨d + 1, k⟩
    else none
  let found := (List.range 17).findSome? (fun i => attempt (i + 1))
  (found.getD ⟨floorScaled m q (top - 16), top - 16⟩).normalize

/-- How chosen digits are written. -/
structure Layout where
  /-- Smallest decimal exponent of the leading digit written without an exponent. -/
  minPositional : Int
  /-- Largest decimal exponent of the leading digit written without an exponent. -/
  maxPositional : Int
  /-- Whether a non-negative exponent carries a `+`. -/
  plusSign : Bool

/-- `n` copies of the digit zero. -/
def zeros (n : Nat) : String := String.ofList (List.replicate n '0')

/-- Write digits `d · 10^k` (with `d > 0`) under a layout. -/
def Layout.write (l : Layout) (d : Digits) : String :=
  let s := toString d.digits
  let n := s.length
  let lead := d.exponent + n - 1
  if l.minPositional ≤ lead ∧ lead ≤ l.maxPositional then
    if d.exponent ≥ 0 then s ++ zeros d.exponent.toNat ++ ".0"
    else if lead ≥ 0 then
      let cut := (lead + 1).toNat
      String.ofList (s.toList.take cut) ++ "." ++ String.ofList (s.toList.drop cut)
    else "0." ++ zeros (-lead - 1).toNat ++ s
  else
    let mant := match s.toList with
      | c :: rest@(_ :: _) => String.ofList (c :: '.' :: rest)
      | cs => String.ofList cs
    let sign := if lead < 0 then "-" else if l.plusSign then "+" else ""
    mant ++ "e" ++ sign ++ toString lead.natAbs

/-- Write a finite float under a layout; `none` for an infinity or NaN. -/
def Layout.writeFloat (l : Layout) (x : Float) : Option String :=
  match exactOf x with
  | none => none
  | some e =>
    let sign := if e.negative then "-" else ""
    if e.significand = 0 then some (sign ++ "0.0")
    else some (sign ++ l.write e.shortest)

end Decimal

end QueryRelay
