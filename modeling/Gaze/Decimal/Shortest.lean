import Gaze.Decimal.Binary
/-!
Shortest decimals.

Of the decimals that read back to a binary64 magnitude, the one to write has the fewest
significant digits, and among those the one nearest to the magnitude, the larger at an exact
tie. The search tries one significant digit, then two, and so on: on each decimal grid, if any
point lies in the rounding interval then one of the two grid points around the magnitude does,
so those two are the only candidates. Seventeen digits always suffice.

All comparisons are exact, on naturals: a number `a · 2^i · 10^j` is compared with another by
dividing both by the smaller power of each base.
-/

namespace Gaze

/-- A nonnegative decimal number `digits · 10^exponent`. -/
structure Decimal where
  /-- The significant digits, as a natural number. -/
  digits : Nat
  /-- The power of ten of the last digit. -/
  exponent : Int
  deriving Repr, DecidableEq

namespace Decimal

/-- `a · 2^i · 10^j` compared with `b · 2^k · 10^l`, exactly. -/
def compareScaled (a : Nat) (i j : Int) (b : Nat) (k l : Int) : Ordering :=
  let i0 := min i k
  let j0 := min j l
  compare (a * Nat.pow 2 (i - i0).toNat * Nat.pow 10 (j - j0).toNat)
    (b * Nat.pow 2 (k - i0).toNat * Nat.pow 10 (l - j0).toNat)

/-- `⌊a · 2^i · 10^j⌋`. -/
def floorScaled (a : Nat) (i j : Int) : Nat :=
  a * Nat.pow 2 i.toNat * Nat.pow 10 j.toNat / (Nat.pow 2 (-i).toNat * Nat.pow 10 (-j).toNat)

/-- `⌊log₁₀ n⌋` for positive `n`; zero for zero. -/
def log10 (n : Nat) : Nat :=
  if h : n < 10 then 0 else log10 (n / 10) + 1
termination_by n
decreasing_by omega

/-- The place of the leading digit of the positive number `c · 2^e`: `⌊log₁₀ (c · 2^e)⌋`.
Scaling by `10^330` first lifts every binary64 magnitude to at least one, and the floor of a
number at least one has the same leading place. -/
def leadingPlace (c : Nat) (e : Int) : Int := (log10 (floorScaled c e 330) : Int) - 330

/-- The same number without trailing zeros in its digits. -/
def trim (d : Decimal) : Decimal :=
  if h : d.digits ≠ 0 ∧ d.digits % 10 = 0 then trim ⟨d.digits / 10, d.exponent + 1⟩ else d
termination_by d.digits
decreasing_by omega

end Decimal

namespace RoundingInterval

/-- Whether `d · 10^k` lies in the interval. -/
def contains (r : RoundingInterval) (d : Nat) (k : Int) : Bool :=
  let lo := Decimal.compareScaled (r.center - r.below) r.exponent 0 d 0 k
  let hi := Decimal.compareScaled d 0 k (r.center + r.above) r.exponent 0
  if r.closed then lo != .gt && hi != .gt else lo == .lt && hi == .lt

/-- A decimal on the grid `10^k` that lies in the interval, if one does: of the two grid
points around the center, the one inside, the nearer when both are, and the upper one at an
exact tie. -/
def onGrid (r : RoundingInterval) (k : Int) : Option Decimal :=
  let f := Decimal.floorScaled r.center r.exponent (-k)
  let down := r.contains f k
  let up := r.contains (f + 1) k
  if down && up then
    match Decimal.compareScaled (2 * r.center) r.exponent 0 (2 * f + 1) 0 k with
    | .lt => some ⟨f, k⟩
    | _ => some ⟨f + 1, k⟩
  else if down then some ⟨f, k⟩
  else if up then some ⟨f + 1, k⟩
  else none

/-- The shortest decimal in the interval, nearest to its center, without trailing zeros. -/
def shortest (r : RoundingInterval) : Decimal :=
  let top := Decimal.leadingPlace r.center r.exponent
  match (List.range 17).findSome? (fun (i : Nat) => r.onGrid (top - i)) with
  | some d => d.trim
  | none => (⟨Decimal.floorScaled r.center r.exponent (16 - top), top - 16⟩ : Decimal).trim

end RoundingInterval

namespace Decimal

/-- The shortest decimal that reads back to the magnitude `mantissa · 2^exponent` of a finite
word; zero for a zero mantissa. -/
def ofMagnitude (mantissa : Nat) (exponent : Int) : Decimal :=
  if mantissa = 0 then ⟨0, 0⟩
  else (RoundingInterval.ofMagnitude mantissa exponent).shortest

end Decimal

end Gaze
