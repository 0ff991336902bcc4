import MapIngest.Geometry.Vector

/-!
# Rotations given by quaternions

A quaternion is a vector of four components, of which the last is the scalar
part.  It is brought to unit length and then turned into a rotation matrix.
A quaternion and its negative give the same matrix.

The square root is a parameter, so that the same definitions compute in
doubles and are reasoned about in exact arithmetic.  The product of
quaternions is stated beside the matrix: rotating a vector is conjugation.
-/

namespace MapIngest.Geometry

variable {α : Type}

/-- Twice a number. -/
def twice [Add α] (a : α) : α :=
  a + a

/-- A quaternion; the component `w` is its scalar part. -/
abbrev Quaternion (α : Type) := Vec4 α

namespace Quaternion

/-- The length, given a square root. -/
def norm [Add α] [Mul α] (sqrt : α → α) (q : Quaternion α) : α :=
  sqrt (q.dot q)

/-- Divide by a number. -/
def divide [Div α] (q : Quaternion α) (length : α) : Quaternion α :=
  q.map (· / length)

/-- The rotation matrix of a quaternion of unit length. -/
def toMatrix [Add α] [Sub α] [Mul α] [Neg α] (q : Quaternion α) : Mat3 α :=
  let xx := q.x * q.x
  let yy := q.y * q.y
  let zz := q.z * q.z
  let ww := q.w * q.w
  let xy := q.x * q.y
  let zw := q.z * q.w
  let xz := q.x * q.z
  let yw := q.y * q.w
  let yz := q.y * q.z
  let xw := q.x * q.w
  ⟨⟨xx - yy - zz + ww, twice (xy - zw), twice (xz + yw)⟩,
    ⟨twice (xy + zw), -xx + yy - zz + ww, twice (yz - xw)⟩,
    ⟨twice (xz - yw), twice (yz + xw), -xx - yy + zz + ww⟩⟩

/-- The rotation matrix of a quaternion of any length but zero. -/
def rotation [Add α] [Sub α] [Mul α] [Div α] [Neg α] (sqrt : α → α) (q : Quaternion α) :
    Mat3 α :=
  (q.divide (q.norm sqrt)).toMatrix

/-- The product of two quaternions. -/
def mul [Add α] [Sub α] [Mul α] (p q : Quaternion α) : Quaternion α :=
  { x := p.w * q.x + p.x * q.w + p.y * q.z - p.z * q.y
    y := p.w * q.y - p.x * q.z + p.y * q.w + p.z * q.x
    z := p.w * q.z + p.x * q.y - p.y * q.x + p.z * q.w
    w := p.w * q.w - p.x * q.x - p.y * q.y - p.z * q.z }

/-- The quaternion with the vector part turned around. -/
def conjugate [Neg α] (q : Quaternion α) : Quaternion α :=
  ⟨-q.x, -q.y, -q.z, q.w⟩

/-- The inverse under multiplication. -/
def inverse [Add α] [Mul α] [Div α] [Neg α] (q : Quaternion α) : Quaternion α :=
  q.conjugate.divide (q.dot q)

/-- The quaternion without scalar part that a vector is. -/
def ofVector [OfNat α 0] (v : Vec3 α) : Quaternion α :=
  ⟨v.x, v.y, v.z, 0⟩

/-- The vector part. -/
def vector (q : Quaternion α) : Vec3 α :=
  ⟨q.x, q.y, q.z⟩

end Quaternion

end MapIngest.Geometry
