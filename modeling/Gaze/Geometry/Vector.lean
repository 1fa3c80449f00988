import Gaze.Scalar
/-!
Vectors of three and two coordinates over a scalar type.

Sums, differences and scalings go coordinate by coordinate. The dot product adds its three
products from the first to the last, and the length is the square root of the dot product of a
vector with itself; both orders are part of the result on floats.
-/

namespace Gaze

/-- A point or direction in space. -/
structure Vec3 (α : Type) where
  /-- First coordinate. -/
  x : α
  /-- Second coordinate. -/
  y : α
  /-- Third coordinate. -/
  z : α
  deriving Repr

/-- A point in a plane, such as a pupil position. -/
structure Vec2 (α : Type) where
  /-- First coordinate. -/
  x : α
  /-- Second coordinate. -/
  y : α
  deriving Repr

/-- Two vectors are equal when each pair of coordinates compares equal. -/
instance {α : Type} [BEq α] : BEq (Vec3 α) :=
  ⟨fun a b => a.x == b.x && a.y == b.y && a.z == b.z⟩

/-- Two vectors are equal when each pair of coordinates compares equal. -/
instance {α : Type} [BEq α] : BEq (Vec2 α) := ⟨fun a b => a.x == b.x && a.y == b.y⟩

namespace Vec3

variable {α : Type} [Scalar α]

/-- The vector with every coordinate zero. -/
def zero : Vec3 α := ⟨0.0, 0.0, 0.0⟩

instance : Add (Vec3 α) := ⟨fun a b => ⟨a.x + b.x, a.y + b.y, a.z + b.z⟩⟩

instance : Sub (Vec3 α) := ⟨fun a b => ⟨a.x - b.x, a.y - b.y, a.z - b.z⟩⟩

/-- Scaling multiplies each coordinate by the factor. -/
instance : HMul (Vec3 α) α (Vec3 α) := ⟨fun a s => ⟨a.x * s, a.y * s, a.z * s⟩⟩

/-- Division by a scalar divides each coordinate; it is not a scaling by the reciprocal. -/
instance : HDiv (Vec3 α) α (Vec3 α) := ⟨fun a s => ⟨a.x / s, a.y / s, a.z / s⟩⟩


@[simp] theorem add_x (a b : Vec3 α) : (a + b).x = a.x + b.x := rfl
@[simp] theorem add_y (a b : Vec3 α) : (a + b).y = a.y + b.y := rfl
@[simp] theorem add_z (a b : Vec3 α) : (a + b).z = a.z + b.z := rfl
@[simp] theorem sub_x (a b : Vec3 α) : (a - b).x = a.x - b.x := rfl
@[simp] theorem sub_y (a b : Vec3 α) : (a - b).y = a.y - b.y := rfl
@[simp] theorem sub_z (a b : Vec3 α) : (a - b).z = a.z - b.z := rfl

/-- The dot product, summed from the first coordinate to the last. -/
def dot (a b : Vec3 α) : α := a.x * b.x + a.y * b.y + a.z * b.z

/-- The Euclidean length. -/
def norm (a : Vec3 α) : α := Scalar.sqrt (a.dot a)

/-- The vector divided by its length. -/
def normalize (a : Vec3 α) : Vec3 α := a / a.norm

/-- The same vector with the second coordinate negated: its reflection in the plane `y = 0`. -/
def flipY (a : Vec3 α) : Vec3 α := ⟨a.x, -a.y, a.z⟩

end Vec3

namespace Vec2

variable {α : Type} [Scalar α]

/-- The vector with both coordinates zero. -/
def zero : Vec2 α := ⟨0.0, 0.0⟩


end Vec2

end Gaze
