import Gaze.Error
import Gaze.Geometry.Vector
/-!
Sensor vectors: the vectors of a message, planar or spatial.

A vector is read from its components: two make a planar vector, three a spatial one, and any
other count is refused as not being the three that a vector has by default. A field that wants
one kind refuses the other. The text of a vector is its components between braces, separated by
commas, each written as the library writes floats.
-/

namespace Gaze

/-- A vector of a message: planar, such as a pupil position, or spatial. -/
inductive SensorVector (α : Type) where
  /-- Two components. -/
  | planar (v : Vec2 α)
  /-- Three components. -/
  | spatial (v : Vec3 α)

namespace SensorVector

variable {α : Type}

/-- The vector with these components. -/
def ofComponents : List α → Except Error (SensorVector α)
  | [x, y] => .ok (.planar ⟨x, y⟩)
  | [x, y, z] => .ok (.spatial ⟨x, y, z⟩)
  | cs => .error (.dimension 3 cs.length)

/-- The number of components. -/
def dimension : SensorVector α → Nat
  | .planar _ => 2
  | .spatial _ => 3

/-- The components in order. -/
def components : SensorVector α → List α
  | .planar v => [v.x, v.y]
  | .spatial v => [v.x, v.y, v.z]

/-- The planar vector, or the error for a spatial one. -/
def toVec2 : SensorVector α → Except Error (Vec2 α)
  | .planar v => .ok v
  | .spatial _ => .error (.dimension 2 3)

/-- The spatial vector, or the error for a planar one. -/
def toVec3 : SensorVector α → Except Error (Vec3 α)
  | .spatial v => .ok v
  | .planar _ => .error (.dimension 3 2)

/-- The components between braces, separated by commas. -/
def text (v : SensorVector Float) : String :=
  "\x7b" ++ ",".intercalate (v.components.map floatText) ++ "\x7d"

theorem ofComponents_components (v : SensorVector α) : ofComponents v.components = .ok v := by
  cases v <;> rfl

theorem toVec2_eq_ok_iff (v : SensorVector α) (w : Vec2 α) : v.toVec2 = .ok w ↔ v = .planar w := by
  cases v <;> simp [toVec2]

theorem toVec3_eq_ok_iff (v : SensorVector α) (w : Vec3 α) :
    v.toVec3 = .ok w ↔ v = .spatial w := by
  cases v <;> simp [toVec3]

end SensorVector

end Gaze
