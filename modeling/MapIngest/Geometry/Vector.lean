/-!
# Vectors of three and four components

The vectors and matrices of the library are small and of fixed size, so they
are records.  A matrix is a vector of rows.  The component type is left open:
the program computes in doubles, and the laws of the computations are stated
in exact arithmetic.
-/

namespace MapIngest.Geometry

/-- A vector of three components. -/
structure Vec3 (α : Type) where
  x : α
  y : α
  z : α
deriving DecidableEq, Repr, Inhabited

/-- A vector of four components. -/
structure Vec4 (α : Type) where
  x : α
  y : α
  z : α
  w : α
deriving DecidableEq, Repr, Inhabited

namespace Vec3

variable {α β : Type}

/-- Apply a function to every component. -/
def map (f : α → β) (v : Vec3 α) : Vec3 β :=
  ⟨f v.x, f v.y, f v.z⟩

/-- The components in order. -/
def toList (v : Vec3 α) : List α :=
  [v.x, v.y, v.z]

/-- The vector with the given components, if there are three. -/
def ofList? : List α → Option (Vec3 α)
  | [x, y, z] => some ⟨x, y, z⟩
  | _ => none

/-- Componentwise addition. -/
def add [Add α] (v w : Vec3 α) : Vec3 α :=
  ⟨v.x + w.x, v.y + w.y, v.z + w.z⟩

/-- Componentwise subtraction. -/
def sub [Sub α] (v w : Vec3 α) : Vec3 α :=
  ⟨v.x - w.x, v.y - w.y, v.z - w.z⟩

/-- The scalar product. -/
def dot [Add α] [Mul α] (v w : Vec3 α) : α :=
  v.x * w.x + v.y * w.y + v.z * w.z

/-- The vector product. -/
def cross [Sub α] [Mul α] (v w : Vec3 α) : Vec3 α :=
  ⟨v.y * w.z - v.z * w.y, v.z * w.x - v.x * w.z, v.x * w.y - v.y * w.x⟩

/-- Whether all components are finite. -/
def isFinite (v : Vec3 Float) : Bool :=
  v.x.isFinite && v.y.isFinite && v.z.isFinite

/-- Whether a component is negative. -/
def hasNegative (v : Vec3 Float) : Bool :=
  v.x < 0.0 || v.y < 0.0 || v.z < 0.0

@[simp]
theorem ofList?_toList (v : Vec3 α) : ofList? v.toList = some v := rfl

end Vec3

namespace Vec4

variable {α β : Type}

/-- Apply a function to every component. -/
def map (f : α → β) (v : Vec4 α) : Vec4 β :=
  ⟨f v.x, f v.y, f v.z, f v.w⟩

/-- The components in order. -/
def toList (v : Vec4 α) : List α :=
  [v.x, v.y, v.z, v.w]

/-- The vector with the given components, if there are four. -/
def ofList? : List α → Option (Vec4 α)
  | [x, y, z, w] => some ⟨x, y, z, w⟩
  | _ => none

/-- The scalar product. -/
def dot [Add α] [Mul α] (v w : Vec4 α) : α :=
  v.x * w.x + v.y * w.y + v.z * w.z + v.w * w.w

@[simp]
theorem ofList?_toList (v : Vec4 α) : ofList? v.toList = some v := rfl

end Vec4

/-- A matrix of three rows and three columns. -/
abbrev Mat3 (α : Type) := Vec3 (Vec3 α)

/-- A matrix of three rows and four columns, as a camera projects with. -/
abbrev Mat34 (α : Type) := Vec3 (Vec4 α)

/-- A matrix of four rows and four columns. -/
abbrev Mat4 (α : Type) := Vec4 (Vec4 α)

/-- The product of a matrix and a column vector. -/
def Mat3.apply {α : Type} [Add α] [Mul α] (m : Mat3 α) (v : Vec3 α) : Vec3 α :=
  ⟨m.x.dot v, m.y.dot v, m.z.dot v⟩

/-- The product of a matrix and a column vector. -/
def Mat4.apply {α : Type} [Add α] [Mul α] (m : Mat4 α) (v : Vec4 α) : Vec4 α :=
  ⟨m.x.dot v, m.y.dot v, m.z.dot v, m.w.dot v⟩

/-- The entries of a matrix, row by row. -/
def Mat3.toRows {α : Type} (m : Mat3 α) : List (List α) :=
  m.toList.map Vec3.toList

/-- The entries of a matrix, row by row. -/
def Mat34.toRows {α : Type} (m : Mat34 α) : List (List α) :=
  m.toList.map Vec4.toList

/-- The entries of a matrix, row by row. -/
def Mat4.toRows {α : Type} (m : Mat4 α) : List (List α) :=
  m.toList.map Vec4.toList

end MapIngest.Geometry
