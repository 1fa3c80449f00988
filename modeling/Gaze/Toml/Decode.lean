import Gaze.Toml.Value
import Gaze.Decimal.Nearest
import Gaze.Geometry.Vector
/-!
Reading typed fields out of TOML values.

A float field takes a float or an integer, the integer rounded to the nearest float. A boolean,
string or integer field takes only its own kind. A vector field takes an array of exactly as
many numbers as the vector has coordinates. A record is read from a table by its keys, with keys
it does not know ignored, or from an array by position.
-/

namespace Gaze.Toml

namespace Value

/-- A float, or an integer as the nearest float. -/
def asFloat : Value → Option Float
  | .float x => some x
  | .integer n => some (Decimal.toFloat (decide (n < 0)) n.natAbs 0)
  | _ => none

/-- A boolean. -/
def asBool : Value → Option Bool
  | .boolean b => some b
  | _ => none

/-- A string. -/
def asString : Value → Option String
  | .string s => some s
  | _ => none

/-- A signed 64-bit integer. -/
def asInt64 : Value → Option Int64
  | .integer n => some (Int64.ofInt n)
  | _ => none

/-- A vector of three numbers. -/
def asVec3 : Value → Option (Vec3 Float)
  | .array [a, b, c] => do pure ⟨← a.asFloat, ← b.asFloat, ← c.asFloat⟩
  | _ => none

/-- A vector of two numbers. -/
def asVec2 : Value → Option (Vec2 Float)
  | .array [a, b] => do pure ⟨← a.asFloat, ← b.asFloat⟩
  | _ => none

end Value

/-- A field that takes `dflt` when the table lacks it. -/
def optional {α : Type} (entries : List (String × Value)) (key : String)
    (read : Value → Option α) (dflt : α) : Option α :=
  match lookup entries key with
  | some v => read v
  | none => some dflt

/-- A field that the table must have. -/
def required {α : Type} (entries : List (String × Value)) (key : String)
    (read : Value → Option α) : Option α :=
  (lookup entries key).bind read

/-- The field at a position of an array read as a record, `dflt` past its end. -/
def positional {α : Type} (items : List Value) (i : Nat) (read : Value → Option α)
    (dflt : α) : Option α :=
  match items[i]? with
  | some v => read v
  | none => some dflt

end Gaze.Toml
