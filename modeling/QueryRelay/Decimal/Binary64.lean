/-!
# Binary64 values as exact numbers

A finite binary64 value is `± m · 2^q` with an integer significand `m < 2^53`. Reading it that
way lets every question about a float be answered in exact `Nat` arithmetic: which decimals
round to it, how a decimal rounds to it, how it compares with another.

* `Float.exact?` splits a float into sign, significand and exponent (`none` for an infinity or
  a NaN);
* `roundScaled m e` is the binary64 value nearest to `m · 2^e`, ties to an even significand,
  the way a correctly rounded conversion behaves; it overflows to infinity and underflows into
  the subnormals.
-/

namespace QueryRelay

namespace Decimal

/-- A finite float read exactly: the value is `(-1)^negative · significand · 2^exponent`. -/
structure Exact where
  negative : Bool
  significand : Nat
  exponent : Int
  /-- The stored exponent field; it is `0` for zero and the subnormals. -/
  biased : Nat

/-- Bits of the significand field. -/
def fractionBits : Nat := 52

/-- Split a float into its exact parts; infinities and NaN have none. -/
def exactOf (x : Float) : Option Exact :=
  let bits : Nat := x.toBits.toNat
  let negative : Bool := bits / Nat.pow 2 63 % 2 == 1
  let biased : Nat := bits / Nat.pow 2 fractionBits % Nat.pow 2 11
  let fraction : Nat := bits % Nat.pow 2 fractionBits
  if biased == 2047 then none
  else if biased == 0 then some ⟨negative, fraction, -1074, 0⟩
  else some ⟨negative, fraction + Nat.pow 2 fractionBits, (biased : Int) - 1075, biased⟩

/-- `q` rounded after dropping `s` low bits of `m`, half-way cases to the even neighbour. -/
def shiftRound (m s : Nat) : Nat :=
  let q := m / Nat.pow 2 s
  let r := m % Nat.pow 2 s
  if s = 0 then m
  else
    let half := Nat.pow 2 (s - 1)
    if r > half || (r == half && q % 2 == 1) then q + 1 else q

/-- The bit pattern of the binary64 value nearest to `m · 2^e` (for `m > 0`). -/
def roundScaledBits (m : Nat) (e : Int) : Nat :=
  let top := (Nat.log2 m : Int) + e
  if top < -1022 then
    -- subnormal range: the unit is 2^-1074, and a carry into 2^52 is the least normal
    let s := -1074 - e
    if s ≤ 0 then m * Nat.pow 2 (-s).toNat else shiftRound m s.toNat
  else
    let s := (Nat.log2 m : Int) - 52
    let (q, e') :=
      if s ≤ 0 then (m * Nat.pow 2 (-s).toNat, e + s)
      else
        let q := shiftRound m s.toNat
        if q = Nat.pow 2 53 then (Nat.pow 2 52, e + s + 1) else (q, e + s)
    let biased := e' + 1075
    if biased ≥ 2047 then 2047 * Nat.pow 2 fractionBits
    else biased.toNat * Nat.pow 2 fractionBits + (q - Nat.pow 2 fractionBits)

/-- The binary64 value nearest to `m · 2^e`. -/
def roundScaled (m : Nat) (e : Int) : Float :=
  if m = 0 then 0 else Float.ofBits (roundScaledBits m e).toUInt64

/-- The binary64 value nearest to the natural number `n`. -/
def ofNatNearest (n : Nat) : Float := roundScaled n 0

/-- The binary64 value nearest to `10^k`. -/
def powTen (k : Nat) : Float := roundScaled (Nat.pow 5 k) k

end Decimal

end QueryRelay
