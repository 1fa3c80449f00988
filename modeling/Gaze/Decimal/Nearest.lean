import Gaze.Decimal.Shortest
/-!
Reading decimals into binary64.

The word read from `d · 10^k` is the one nearest to it, with ties going to the even mantissa.
Numbers below half the smallest subnormal read as zero and numbers at least halfway past the
largest finite word read as infinity. Everything is computed on naturals: the binary exponent
is fixed from the bit lengths of numerator and denominator, and the mantissa is their quotient
rounded once.
-/

namespace Gaze.Decimal

/-- `n / d` rounded to the nearest natural, ties to even. -/
def roundHalfEven (n d : Nat) : Nat :=
  let q := n / d
  let r := n % d
  if 2 * r > d ∨ (2 * r = d ∧ q % 2 = 1) then q + 1 else q

/-- The bits of the positive binary64 word nearest to `d · 10^k`. Magnitudes below `10^-330`
are far under the smallest subnormal, and those of at least `10^310` far over the largest
finite word, so both are decided before any power of ten is built. -/
def nearestBits (d : Nat) (k : Int) : UInt64 :=
  let width : Int := (log10 d : Int) + 1
  if d = 0 ∨ width + k ≤ -330 then 0
  else if 310 < width + k then 0x7FF0000000000000
  else
    let num := d * Nat.pow 10 k.toNat
    let den := Nat.pow 10 (-k).toNat
    let shift : Int := (Nat.log2 num : Int) - (Nat.log2 den : Int)
    -- `2 ^ e2 ≤ num / den < 2 ^ (e2 + 1)`
    let e2 := if compareScaled num 0 0 den shift 0 == .lt then shift - 1 else shift
    let q := max (e2 - 52) (-1074)
    let m := roundHalfEven (num * Nat.pow 2 (-q).toNat) (den * Nat.pow 2 q.toNat)
    let (m, q) := if m = Nat.pow 2 53 then (Nat.pow 2 52, q + 1) else (m, q)
    if 971 < q then 0x7FF0000000000000
    else if m < Nat.pow 2 52 then m.toUInt64
    else ((q + 1075).toNat * Nat.pow 2 52 + (m - Nat.pow 2 52)).toUInt64

/-- The float nearest to `± d · 10^k`. -/
def toFloat (negative : Bool) (d : Nat) (k : Int) : Float :=
  Float.ofBits (nearestBits d k ||| (if negative then 0x8000000000000000 else 0))

end Gaze.Decimal
