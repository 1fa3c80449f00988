import Gaze.Geometry.Vector
/-!
Rotations as 3×3 matrices.

A matrix is three rows. Entries of a product and coordinates of an image are dot products of a
row with a column or vector, summed from the first term to the last. The rotation by an angle
about a unit axis is Rodrigues' matrix, and exactly the identity for a zero angle.
-/

namespace Gaze

/-- A 3×3 matrix, by rows. -/
structure Mat3 (α : Type) where
  /-- The first row. -/
  row0 : Vec3 α
  /-- The second row. -/
  row1 : Vec3 α
  /-- The third row. -/
  row2 : Vec3 α
  deriving Repr

namespace Mat3

variable {α : Type} [Scalar α]

/-- The identity matrix. -/
def identity : Mat3 α := ⟨⟨1.0, 0.0, 0.0⟩, ⟨0.0, 1.0, 0.0⟩, ⟨0.0, 0.0, 1.0⟩⟩

/-- The first column. -/
def col0 (m : Mat3 α) : Vec3 α := ⟨m.row0.x, m.row1.x, m.row2.x⟩

/-- The second column. -/
def col1 (m : Mat3 α) : Vec3 α := ⟨m.row0.y, m.row1.y, m.row2.y⟩

/-- The third column. -/
def col2 (m : Mat3 α) : Vec3 α := ⟨m.row0.z, m.row1.z, m.row2.z⟩

/-- The image of a vector. -/
def apply (m : Mat3 α) (v : Vec3 α) : Vec3 α := ⟨m.row0.dot v, m.row1.dot v, m.row2.dot v⟩

/-- The product `a * b`: apply `b` first, then `a`. -/
def mul (a b : Mat3 α) : Mat3 α :=
  let row r := (⟨r.dot b.col0, r.dot b.col1, r.dot b.col2⟩ : Vec3 α)
  ⟨row a.row0, row a.row1, row a.row2⟩

instance : Mul (Mat3 α) := ⟨mul⟩

/-- The rotation by `angle` radians about the unit axis `u`, by Rodrigues' formula
`cos θ · I + sin θ · [u]ₓ + (1 - cos θ) · u uᵀ`; the identity when the angle is zero. -/
def axisAngle (u : Vec3 α) (angle : α) : Mat3 α :=
  if angle == 0.0 then identity
  else
    let sqx := u.x * u.x
    let sqy := u.y * u.y
    let sqz := u.z * u.z
    let s := Scalar.sin angle
    let c := Scalar.cos angle
    let k := 1.0 - c
    ⟨⟨sqx + (1.0 - sqx) * c, u.x * u.y * k - u.z * s, u.x * u.z * k + u.y * s⟩,
     ⟨u.x * u.y * k + u.z * s, sqy + (1.0 - sqy) * c, u.y * u.z * k - u.x * s⟩,
     ⟨u.x * u.z * k - u.y * s, u.y * u.z * k + u.x * s, sqz + (1.0 - sqz) * c⟩⟩

end Mat3

end Gaze
