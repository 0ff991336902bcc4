import Mathlib.Algebra.Quaternion
import Mathlib.Analysis.Real.Sqrt
import MapIngest.Proofs.Geometry.Reading

/-!
# Poses are rigid motions

In exact arithmetic the matrix of a quaternion turns a vector as conjugation by the
quaternion does, in the algebra of Hamilton's quaternions.  The length of the quaternion
cancels out, and so does every other factor.

Conjugation goes through products and keeps scalar parts.  The scalar part of the product of
two vectors is their scalar product, up to the sign, and its vector part is their vector
product; a turn therefore keeps the one and carries over the other.  From this come the
distances and the orientation.
-/

section

open scoped Quaternion

namespace MapIngest.Geometry

/-! ## Vectors as quaternions -/

namespace Vec3

/-- The quaternion without scalar part that a vector is, in Hamilton's algebra. -/
def hamilton (v : Vec3 ℝ) : ℍ[ℝ] :=
  ⟨0, v.x, v.y, v.z⟩

/-- The vector part of an element of Hamilton's algebra. -/
def ofHamilton (h : ℍ[ℝ]) : Vec3 ℝ :=
  ⟨h.imI, h.imJ, h.imK⟩

/-- How far apart two points are. -/
noncomputable def distance (v w : Vec3 ℝ) : ℝ :=
  √((v.sub w).dot (v.sub w))

/-- The volume that three vectors span; its sign is their orientation. -/
def volume (u v w : Vec3 ℝ) : ℝ :=
  (u.cross v).dot w

variable (v w : Vec3 ℝ)

@[simp]
theorem re_hamilton : v.hamilton.re = 0 := rfl

@[simp]
theorem imI_hamilton : v.hamilton.imI = v.x := rfl

@[simp]
theorem imJ_hamilton : v.hamilton.imJ = v.y := rfl

@[simp]
theorem imK_hamilton : v.hamilton.imK = v.z := rfl

@[simp]
theorem ofHamilton_hamilton : ofHamilton v.hamilton = v := rfl

/-- A quaternion without scalar part is its vector part. -/
theorem hamilton_ofHamilton {h : ℍ[ℝ]} (scalarless : h.re = 0) :
    (ofHamilton h).hamilton = h := by
  ext
  · exact scalarless.symm
  · rfl
  · rfl
  · rfl

theorem hamilton_sub : (v.sub w).hamilton = v.hamilton - w.hamilton := by
  ext <;> simp [sub]

theorem ofHamilton_sub (g h : ℍ[ℝ]) :
    ofHamilton (g - h) = (ofHamilton g).sub (ofHamilton h) := by
  simp [ofHamilton, sub]

theorem ofHamilton_sub_coe (h : ℍ[ℝ]) (number : ℝ) :
    ofHamilton (h - (number : ℍ[ℝ])) = ofHamilton h := by
  simp [ofHamilton]

/-- The product of two vectors holds both of their products, in its two parts. -/
theorem hamilton_mul_hamilton :
    v.hamilton * w.hamilton = (v.cross w).hamilton - ((v.dot w : ℝ) : ℍ[ℝ]) := by
  ext <;> simp [cross, dot] <;> ring

theorem dot_eq : v.dot w = -(v.hamilton * w.hamilton).re := by
  rw [hamilton_mul_hamilton]
  simp

theorem cross_eq : v.cross w = ofHamilton (v.hamilton * w.hamilton) := by
  rw [hamilton_mul_hamilton, ofHamilton_sub_coe, ofHamilton_hamilton]

/-- A shift does not change how two points differ. -/
theorem add_sub_add (shift : Vec3 ℝ) : (v.add shift).sub (w.add shift) = v.sub w := by
  simp [add, sub]

end Vec3

/-! ## Quaternions and their matrices -/

namespace Quaternion

/-- A quaternion as an element of Hamilton's algebra. -/
def hamilton (q : Quaternion ℝ) : ℍ[ℝ] :=
  ⟨q.w, q.x, q.y, q.z⟩

section Parts

variable (q : Quaternion ℝ)

@[simp]
theorem re_hamilton : q.hamilton.re = q.w := rfl

@[simp]
theorem imI_hamilton : q.hamilton.imI = q.x := rfl

@[simp]
theorem imJ_hamilton : q.hamilton.imJ = q.y := rfl

@[simp]
theorem imK_hamilton : q.hamilton.imK = q.z := rfl

end Parts

theorem hamilton_mul (p q : Quaternion ℝ) : (p.mul q).hamilton = p.hamilton * q.hamilton := by
  ext <;> simp [mul]

theorem hamilton_conjugate (q : Quaternion ℝ) : q.conjugate.hamilton = star q.hamilton := by
  ext <;> simp [conjugate]

theorem hamilton_divide (q : Quaternion ℝ) (length : ℝ) :
    (q.divide length).hamilton = length⁻¹ • q.hamilton := by
  ext <;> simp [divide, Vec4.map, div_eq_inv_mul]

theorem hamilton_scale (q : Quaternion ℝ) (factor : ℝ) :
    hamilton (q.map (factor * ·)) = factor • q.hamilton := by
  ext <;> simp [Vec4.map]

theorem normSq_hamilton (q : Quaternion ℝ) : Quaternion.normSq q.hamilton = q.dot q := by
  simp only [Quaternion.normSq_def', re_hamilton, imI_hamilton, imJ_hamilton, imK_hamilton,
    Vec4.dot]
  ring

theorem hamilton_inverse (q : Quaternion ℝ) : q.inverse.hamilton = q.hamilton⁻¹ := by
  rw [inverse, hamilton_divide, hamilton_conjugate, ← normSq_hamilton, Quaternion.inv_def]

theorem hamilton_ne_zero {q : Quaternion ℝ} (directed : q ≠ ⟨0, 0, 0, 0⟩) : q.hamilton ≠ 0 := by
  intro zero
  apply directed
  rcases q with ⟨x, y, z, w⟩
  have parts := Quaternion.ext_iff.mp zero
  simp at parts
  rcases parts with ⟨rfl, rfl, rfl, rfl⟩
  rfl

/-- The matrix multiplies by the quaternion on the left, and by its conjugate on the right. -/
theorem toMatrix_apply (q : Quaternion ℝ) (v : Vec3 ℝ) :
    q.toMatrix.apply v = .ofHamilton (q.hamilton * v.hamilton * star q.hamilton) := by
  simp only [toMatrix, twice, Mat3.apply, Vec3.dot, Vec3.ofHamilton]
  congr 1 <;> simp <;> ring

end Quaternion

/-! ## Turning -/

/-- Turn an element of Hamilton's algebra by another one. -/
noncomputable def turn (q h : ℍ[ℝ]) : ℍ[ℝ] :=
  q * h * q⁻¹

/-- Turn a vector by an element of Hamilton's algebra. -/
noncomputable def Vec3.turned (q : ℍ[ℝ]) (v : Vec3 ℝ) : Vec3 ℝ :=
  .ofHamilton (turn q v.hamilton)

section Turning

variable {q : ℍ[ℝ]}

theorem turn_sub (q g h : ℍ[ℝ]) : turn q (g - h) = turn q g - turn q h := by
  rw [turn, mul_sub, sub_mul]
  rfl

theorem turn_mul (directed : q ≠ 0) (g h : ℍ[ℝ]) : turn q (g * h) = turn q g * turn q h := by
  have cancel : q⁻¹ * q = 1 := inv_mul_cancel₀ directed
  calc
    turn q (g * h) = q * g * (1 * (h * q⁻¹)) := by simp only [turn, one_mul, mul_assoc]
    _ = q * g * (q⁻¹ * q * (h * q⁻¹)) := by rw [cancel]
    _ = turn q g * turn q h := by simp only [turn, mul_assoc]

theorem turn_coe (directed : q ≠ 0) (number : ℝ) : turn q (number : ℍ[ℝ]) = number := by
  rw [turn, ← Quaternion.coe_commutes, mul_assoc, mul_inv_cancel₀ directed, mul_one]

theorem re_mul_comm (g h : ℍ[ℝ]) : (g * h).re = (h * g).re := by
  simp only [Quaternion.re_mul]
  ring

/-- A turn keeps scalar parts. -/
theorem re_turn (directed : q ≠ 0) (h : ℍ[ℝ]) : (turn q h).re = h.re := by
  rw [turn, re_mul_comm, ← mul_assoc, inv_mul_cancel₀ directed, one_mul]

/-- A factor of what turns cancels out, since numbers commute with everything. -/
theorem turn_smul {factor : ℝ} (nonzero : factor ≠ 0) (q h : ℍ[ℝ]) :
    turn (factor • q) h = turn q h := by
  have cancel : (factor : ℍ[ℝ]) * (factor : ℍ[ℝ])⁻¹ = 1 := by
    rw [← Quaternion.coe_inv, ← Quaternion.coe_mul, mul_inv_cancel₀ nonzero, Quaternion.coe_one]
  calc
    turn (factor • q) h = factor * turn q h * (factor : ℍ[ℝ])⁻¹ := by
      simp only [turn, ← Quaternion.coe_mul_eq_smul, mul_inv_rev, mul_assoc]
    _ = turn q h * (factor * (factor : ℍ[ℝ])⁻¹) := by
      rw [Quaternion.coe_commutes, mul_assoc]
    _ = turn q h := by rw [cancel, mul_one]

theorem hamilton_turned (directed : q ≠ 0) (v : Vec3 ℝ) :
    (v.turned q).hamilton = turn q v.hamilton :=
  Vec3.hamilton_ofHamilton (re_turn directed v.hamilton)

theorem turned_sub (q : ℍ[ℝ]) (v w : Vec3 ℝ) :
    (v.sub w).turned q = (v.turned q).sub (w.turned q) := by
  rw [Vec3.turned, Vec3.hamilton_sub, turn_sub, Vec3.ofHamilton_sub]
  rfl

/-- A turn keeps the scalar product. -/
theorem dot_turned (directed : q ≠ 0) (v w : Vec3 ℝ) :
    (v.turned q).dot (w.turned q) = v.dot w := by
  rw [Vec3.dot_eq, hamilton_turned directed, hamilton_turned directed, ← turn_mul directed,
    re_turn directed, ← Vec3.dot_eq]

/-- A turn carries over the vector product. -/
theorem cross_turned (directed : q ≠ 0) (v w : Vec3 ℝ) :
    (v.turned q).cross (w.turned q) = (v.cross w).turned q := by
  rw [Vec3.cross_eq, hamilton_turned directed, hamilton_turned directed, ← turn_mul directed,
    Vec3.hamilton_mul_hamilton, turn_sub, turn_coe directed, Vec3.ofHamilton_sub_coe]
  rfl

theorem volume_turned (directed : q ≠ 0) (u v w : Vec3 ℝ) :
    Vec3.volume (u.turned q) (v.turned q) (w.turned q) = Vec3.volume u v w := by
  rw [Vec3.volume, cross_turned directed, dot_turned directed]
  rfl

theorem turned_smul {factor : ℝ} (nonzero : factor ≠ 0) (q : ℍ[ℝ]) (v : Vec3 ℝ) :
    v.turned (factor • q) = v.turned q := by
  rw [Vec3.turned, turn_smul nonzero]
  rfl

end Turning

/-! ## Rotations -/

/-- Matrices that do the same to every vector are equal. -/
theorem Mat3.eq_of_apply {left right : Mat3 ℝ}
    (same : ∀ v, left.apply v = right.apply v) : left = right := by
  have first := same ⟨1, 0, 0⟩
  have second := same ⟨0, 1, 0⟩
  have third := same ⟨0, 0, 1⟩
  rcases left with ⟨⟨_, _, _⟩, ⟨_, _, _⟩, ⟨_, _, _⟩⟩
  rcases right with ⟨⟨_, _, _⟩, ⟨_, _, _⟩, ⟨_, _, _⟩⟩
  simp [Mat3.apply, Vec3.dot] at first second third
  simp [first, second, third]

section Rotations

variable {q : Quaternion ℝ} (directed : q ≠ ⟨0, 0, 0, 0⟩)

include directed

theorem dot_self_pos : 0 < q.dot q := by
  rw [← Quaternion.normSq_hamilton]
  apply lt_of_le_of_ne Quaternion.normSq_nonneg
  exact (Quaternion.normSq_ne_zero.mpr (Quaternion.hamilton_ne_zero directed)).symm

theorem norm_pos : 0 < q.norm Real.sqrt :=
  Real.sqrt_pos.mpr (dot_self_pos directed)

/-- At unit length the conjugate is the inverse. -/
theorem star_unit :
    star (q.divide (q.norm Real.sqrt)).hamilton = (q.divide (q.norm Real.sqrt)).hamilton⁻¹ := by
  have length : q.norm Real.sqrt ^ 2 = q.dot q := Real.sq_sqrt (dot_self_pos directed).le
  have unit : Quaternion.normSq (q.divide (q.norm Real.sqrt)).hamilton = 1 := by
    rw [Quaternion.hamilton_divide, Quaternion.normSq_smul, Quaternion.normSq_hamilton, inv_pow,
      length, inv_mul_cancel₀ (dot_self_pos directed).ne']
  rw [Quaternion.inv_def, unit, inv_one, one_smul]

/-- The rotation of a quaternion turns a vector by the quaternion, whatever its length. -/
theorem rotation_apply (v : Vec3 ℝ) :
    (q.rotation Real.sqrt).apply v = v.turned q.hamilton := by
  have factor : (q.norm Real.sqrt)⁻¹ ≠ 0 := inv_ne_zero (norm_pos directed).ne'
  calc
    (q.rotation Real.sqrt).apply v = v.turned (q.divide (q.norm Real.sqrt)).hamilton := by
      rw [Quaternion.rotation, Quaternion.toMatrix_apply, star_unit directed]
      rfl
    _ = v.turned q.hamilton := by rw [Quaternion.hamilton_divide, turned_smul factor]

theorem apply_ofQuaternion (position v : Vec3 ℝ) :
    (Pose.ofQuaternion Real.sqrt position q).apply v = (v.turned q.hamilton).add position := by
  rw [Pose.apply, Pose.ofQuaternion, rotation_apply directed]

theorem apply_sub_apply (position v w : Vec3 ℝ) :
    ((Pose.ofQuaternion Real.sqrt position q).apply v).sub
        ((Pose.ofQuaternion Real.sqrt position q).apply w) = (v.sub w).turned q.hamilton := by
  rw [apply_ofQuaternion directed, apply_ofQuaternion directed, Vec3.add_sub_add, turned_sub]

theorem scale_ne_zero {factor : ℝ} (nonzero : factor ≠ 0) :
    q.map (factor * ·) ≠ ⟨0, 0, 0, 0⟩ := by
  intro zero
  have scaled : factor • q.hamilton = 0 := by
    rw [← Quaternion.hamilton_scale, zero]
    rfl
  exact smul_ne_zero nonzero (Quaternion.hamilton_ne_zero directed) scaled

theorem rotation_scale {factor : ℝ} (nonzero : factor ≠ 0) :
    Quaternion.rotation Real.sqrt (q.map (factor * ·)) = q.rotation Real.sqrt := by
  apply Mat3.eq_of_apply
  intro v
  rw [rotation_apply (scale_ne_zero directed nonzero), rotation_apply directed,
    Quaternion.hamilton_scale, turned_smul nonzero]

end Rotations

/-- The product of the library conjugates as the product of Hamilton's algebra does. -/
theorem vector_mul_mul_inverse (q : Quaternion ℝ) (v : Vec3 ℝ) :
    ((q.mul (.ofVector v)).mul q.inverse).vector =
      .ofHamilton (q.hamilton * v.hamilton * q.hamilton⁻¹) := by
  have product : ((q.mul (.ofVector v)).mul q.inverse).hamilton =
      q.hamilton * v.hamilton * q.hamilton⁻¹ := by
    rw [Quaternion.hamilton_mul, Quaternion.hamilton_mul, Quaternion.hamilton_inverse]
    rfl
  rw [← product]
  rfl

/-! ## Poses -/

namespace Pose

variable {α : Type}

/-- Read a pose in any arithmetic, unless the length of the quaternion gives no direction. -/
def oriented [Add α] [Sub α] [Mul α] [Div α] [Neg α] (sqrt : α → α) (directionless : α → Prop)
    [DecidablePred directionless] (position : Vec3 α) (q : Quaternion α) :
    Except Fault (Pose α) :=
  if directionless (q.norm sqrt) then Value.refuse .zeroNorm
  else .ok (.ofQuaternion sqrt position q)

/-- In doubles a length gives no direction if it is zero or not a number. -/
theorem ofNumbers_eq_oriented (position : Vec3 Float) (q : Quaternion Float) :
    ofNumbers position q =
      oriented Float.sqrt (fun length => length.isNaN || length == 0.0) position q := by
  simp only [ofNumbers_eq, unit?, oriented]
  split
  next unit found =>
    split at found
    · cases found
    next direction =>
      cases found
      rw [if_neg direction]
      rfl
  next missing =>
    split at missing
    next zero => rw [if_pos zero]
    · cases missing

/-- A pose keeps the distances of points, and the orientation of their differences. -/
structure Rigid (pose : Pose ℝ) : Prop where
  distance : ∀ v w, (pose.apply v).distance (pose.apply w) = v.distance w
  orientation : ∀ u₁ u₂ v₁ v₂ w₁ w₂,
    Vec3.volume ((pose.apply u₂).sub (pose.apply u₁)) ((pose.apply v₂).sub (pose.apply v₁))
        ((pose.apply w₂).sub (pose.apply w₁)) =
      Vec3.volume (u₂.sub u₁) (v₂.sub v₁) (w₂.sub w₁)

section Exact

variable {q : Quaternion ℝ} (directed : q ≠ ⟨0, 0, 0, 0⟩) (position : Vec3 ℝ)

include directed

theorem oriented_eq_ok :
    oriented Real.sqrt (· = 0) position q = .ok (.ofQuaternion Real.sqrt position q) :=
  if_neg (norm_pos directed).ne'

theorem rigid_ofQuaternion : (ofQuaternion Real.sqrt position q).Rigid := by
  have nonzero : q.hamilton ≠ 0 := Quaternion.hamilton_ne_zero directed
  constructor
  case distance =>
    intro v w
    rw [Vec3.distance, apply_sub_apply directed, dot_turned nonzero]
    rfl
  case orientation =>
    intro u₁ u₂ v₁ v₂ w₁ w₂
    simp only [apply_sub_apply directed]
    exact volume_turned nonzero _ _ _

end Exact

end Pose

/-- In exact arithmetic every quaternion but zero gives a pose.  The pose conjugates each point
by the quaternion and shifts it, is rigid, and does not depend on the length of the quaternion
or on its sign.  Poses are read by the same definition in doubles. -/
theorem quaternion_poses_rigid {q : Quaternion ℝ} (directed : q ≠ ⟨0, 0, 0, 0⟩)
    (position : Vec3 ℝ) :
    (∃ pose,
      Pose.oriented Real.sqrt (· = 0) position q = .ok pose ∧
        (∀ points, pose.applyAll points = points.map fun point =>
          (Vec3.ofHamilton (q.hamilton * point.hamilton * q.hamilton⁻¹)).add position) ∧
        pose.Rigid ∧
        ∀ factor : ℝ, factor ≠ 0 →
          Pose.oriented Real.sqrt (· = 0) position (q.map (factor * ·)) = .ok pose) ∧
      ∀ (place : Vec3 Float) (direction : Quaternion Float),
        Pose.ofValues (.list (place.toList.map .float)) (.list (direction.toList.map .float)) =
          Pose.oriented Float.sqrt (fun length => length.isNaN || length == 0.0) place
            direction := by
  constructor
  · refine ⟨.ofQuaternion Real.sqrt position q, ?read, ?points, ?rigid, ?scaled⟩
    case read => exact Pose.oriented_eq_ok directed position
    case points =>
      intro points
      apply List.map_congr_left
      intro point _
      exact apply_ofQuaternion directed position point
    case rigid => exact Pose.rigid_ofQuaternion directed position
    case scaled =>
      intro factor nonzero
      rw [Pose.oriented_eq_ok (scale_ne_zero directed nonzero), Pose.ofQuaternion,
        rotation_scale directed nonzero]
      rfl
  · intro place direction
    rw [ofValues_floats, Pose.ofNumbers_eq_oriented]

/-- A quarter turn around the vertical axis, with a length other than one. -/
def quarterTurn : Quaternion ℝ :=
  ⟨0, 0, 2, 2⟩

/-- The turn takes the first axis to the second one, and the second one backwards to the first;
minus three times the quaternion gives the same pose. -/
theorem quarterTurn_carries :
    quarterTurn ≠ ⟨0, 0, 0, 0⟩ ∧
      ∃ pose,
        Pose.oriented Real.sqrt (· = 0) ⟨1, 0, 0⟩ quarterTurn = .ok pose ∧
          pose.applyAll [⟨1, 0, 0⟩, ⟨0, 1, 0⟩] = [⟨1, 1, 0⟩, ⟨0, 0, 0⟩] ∧
          pose.Rigid ∧
          Pose.oriented Real.sqrt (· = 0) ⟨1, 0, 0⟩ ⟨0, 0, -6, -6⟩ = .ok pose := by
  have directed : quarterTurn ≠ ⟨0, 0, 0, 0⟩ := by simp [quarterTurn]
  obtain ⟨⟨pose, read, points, rigid, scaled⟩, -⟩ := quaternion_poses_rigid directed ⟨1, 0, 0⟩
  refine ⟨directed, pose, read, ?carried, rigid, ?reversed⟩
  case carried =>
    rw [points]
    simp only [List.map_cons, List.map_nil, ← vector_mul_mul_inverse]
    norm_num [quarterTurn, Quaternion.mul, Quaternion.ofVector, Quaternion.inverse,
      Quaternion.conjugate, Quaternion.divide, Quaternion.vector, Vec4.map, Vec4.dot, Vec3.add]
  case reversed =>
    have factored := scaled (-3) (by norm_num)
    norm_num [quarterTurn, Vec4.map] at factored
    exact factored

end MapIngest.Geometry

end
