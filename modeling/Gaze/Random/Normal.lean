import Gaze.Random.ChaCha
import Gaze.Decimal.Nearest
import Gaze.Decimal.Binary
/-!
Standard normal samples by the ziggurat method.

The area under the density `exp (-x²/2)` is covered by 256 horizontal layers of equal area
`V` and a base layer that holds the tail beyond `R`. A draw picks a layer and a point in it from
one 64-bit word: the low eight bits choose the layer, the top 52 bits a signed position. Points
well inside the layer are returned at once; points in the ragged edge are kept when a second
uniform draw falls under the density, and the base layer samples the tail by Marsaglia's
method. The layer edges follow from `R` and `V` by the recurrence
`x_{i+1} = f⁻¹ (V / x_i + f x_i)`, and both tables are taken as written with eighteen decimals.
-/

namespace Gaze.Random

open Gaze

/-- Where the tail begins. -/
def tailStart : Float := 3.6541528853610088

/-- The area of each layer. -/
def layerArea : Float := 0.00492867323399

/-- The unnormalized normal density. -/
def density (x : Float) : Float := Float.exp (-x * x / 2.0)

/-- The positive point where the density has a given height. -/
def densityInv (y : Float) : Float := Float.sqrt (-2.0 * Float.log y)

/-- A float rounded to eighteen decimal places and read back to the nearest float. -/
def toEighteenPlaces (x : Float) : Float :=
  match Binary64.ofFloat x with
  | .finite negative m e =>
    Decimal.toFloat negative
      (Decimal.roundHalfEven (m * Nat.pow 10 18 * Nat.pow 2 e.toNat) (Nat.pow 2 (-e).toNat)) (-18)
  | _ => x

/-- The layer edges before rounding: the base layer's equivalent width, then `R`, then the
recurrence down to the top, and zero. -/
def edgesExact : Array Float :=
  let step (acc : Array Float) (_ : Nat) :=
    let last := acc.back?.getD tailStart
    acc.push (densityInv (layerArea / last + density last))
  ((List.range 254).foldl step #[layerArea / density tailStart, tailStart]).push 0.0

/-- The layer edges `x_0 … x_256`. -/
def layerEdges : Array Float := edgesExact.map toEighteenPlaces

/-- The density at each layer edge. -/
def layerHeights : Array Float := edgesExact.map fun x => toEighteenPlaces (density x)

/-- The top 52 bits of a word as a float in `[2, 4)`, less three: a position in `[-1, 1)`. -/
def signedUnit (bits : UInt64) : Float :=
  Float.ofBits ((bits >>> 12) ||| 0x4000000000000000) - 3.0

/-- The top 52 bits of a word as a float in `(0, 1)`. -/
def openUnit (bits : UInt64) : Float :=
  Float.ofBits ((bits >>> 12) ||| 0x3FF0000000000000) - Float.ofBits 0x3FEFFFFFFFFFFFFF

/-- The top 53 bits of a word as a float in `[0, 1)`. -/
def halfOpenUnit (bits : UInt64) : Float :=
  Float.ofBits 0x3CA0000000000000 * (bits >>> 11).toFloat

/-- A sample from the tail beyond `R`, on the side of the sign of `u`. Pairs of open uniform
draws are tried until one is accepted; `fuel` bounds the tries. -/
def tailSample (u : Float) : Nat → Float → Float → Generator → Float × Generator
  | 0, x, _, g => (if u < 0.0 then x - tailStart else tailStart - x, g)
  | n + 1, x, y, g =>
    if -2.0 * y < x * x then
      let (a, g) := g.nextUInt64
      let (b, g) := g.nextUInt64
      tailSample u n (Float.log (openUnit a) / tailStart) (Float.log (openUnit b)) g
    else (if u < 0.0 then x - tailStart else tailStart - x, g)

/-- A standard normal sample; `fuel` bounds the number of rejected draws. -/
def normalWithFuel : Nat → Generator → Float × Generator
  | 0, g => (0.0, g)
  | n + 1, g =>
    let (bits, g) := g.nextUInt64
    let i := (bits &&& 0xff).toNat
    let u := signedUnit bits
    let x := u * layerEdges.getD i 0.0
    if Float.abs x < layerEdges.getD (i + 1) 0.0 then (x, g)
    else if i = 0 then tailSample u 1000 1.0 0.0 g
    else
      let (r, g) := g.nextUInt64
      let f0 := layerHeights.getD i 0.0
      let f1 := layerHeights.getD (i + 1) 0.0
      if f1 + (f0 - f1) * halfOpenUnit r < density x then (x, g) else normalWithFuel n g

/-- A standard normal sample. Each draw is accepted with probability above 0.98, so a
thousand rejections in a row do not happen in practice. -/
def Generator.normal (g : Generator) : Float × Generator := normalWithFuel 1000 g

end Gaze.Random
