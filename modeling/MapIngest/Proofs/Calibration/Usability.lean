import MapIngest.Proofs.Calibration.Settlement
import MapIngest.Proofs.Decimal.Quotient

/-!
# Usable reprojection matrices

A derived matrix is usable if all its entries are finite, if it is not singular, and if
the working size is positive.  Deriving asks for much less: it only looks at the right
camera, and only for zeros.  This file says which pairs of records give a usable matrix.
The principal point and the focal length of the left camera must be finite, and the
focal length other than zero; the distance must be finite, and neither its inverse nor
the shift of the principal points in units of it may overflow; and the left image must
have a positive size.

The first pair that stands apart settles the matrix for good, usable or not.  A pair
that does not stand apart leaves the calibration open.
-/

namespace MapIngest.Calibration

open MapIngest.Geometry MapIngest.Decimal

/-- A matrix of doubles in exact arithmetic. -/
def exactMatrix (matrix : Mat4 Float) : Matrix (Fin 4) (Fin 4) ℚ :=
  !![exact matrix.x.x, exact matrix.x.y, exact matrix.x.z, exact matrix.x.w;
     exact matrix.y.x, exact matrix.y.y, exact matrix.y.z, exact matrix.y.w;
     exact matrix.z.x, exact matrix.z.y, exact matrix.z.z, exact matrix.z.w;
     exact matrix.w.x, exact matrix.w.y, exact matrix.w.z, exact matrix.w.w]

/-- The matrix has finite entries and an inverse, and the size is positive. -/
structure Working.Usable (working : Working) : Prop where
  finite : ∀ row ∈ Mat4.toRows working.matrix, ∀ entry ∈ row, entry.isFinite = true
  nonsingular : (exactMatrix working.matrix).det ≠ 0
  size : 0 < working.size.1 ∧ 0 < working.size.2

/-- The numbers of a pair of records from which a usable matrix is derived. -/
structure Sound (left right : Camera) : Prop where
  centre : (centreX left.projection).isFinite = true ∧ (centreY left.projection).isFinite = true
  focal : (focalLength left.projection).isFinite = true ∧
    (focalLength left.projection == 0) = false
  distance : (baseline right.projection).isFinite = true ∧
    1 < overflow * |exact (baseline right.projection)|
  shift : (centreX left.projection - centreX right.projection).isFinite = true ∧
    |exact (centreX left.projection - centreX right.projection)| <
      overflow * |exact (baseline right.projection)|
  size : ∃ width height, left.width = .int width ∧ left.height = .int height ∧
    0 < width ∧ 0 < height

/-! ## Derived matrices -/

section Derived

variable (left right : Mat34 Float)

theorem det_matrixFor (distance : Float) :
    (exactMatrix (matrixFor left right distance)).det =
      -(exact (focalLength left) * exact (-1 / -distance)) := by
  simp [exactMatrix, matrixFor, exact_one, exact_zero, Matrix.det_succ_row_zero,
    Fin.sum_univ_succ]

theorem finite_matrixFor_iff (distance : Float) :
    (∀ row ∈ Mat4.toRows (matrixFor left right distance), ∀ entry ∈ row,
        entry.isFinite = true) ↔
      ((centreX left).isFinite = true ∧ (centreY left).isFinite = true) ∧
        (focalLength left).isFinite = true ∧ (-1 / -distance).isFinite = true ∧
        ((centreX left - centreX right) / -distance).isFinite = true := by
  have one : (1 : Float).isFinite = true := by decide +kernel
  have zero : (0 : Float).isFinite = true := by decide +kernel
  simp [Mat4.toRows, matrixFor, Vec4.toList, isFinite_neg, one, zero, and_assoc]

theorem isFinite_inverse_iff (distance shift : Float) :
    ((-1 / -distance).isFinite = true ∧ exact (-1 / -distance) ≠ 0 ∧
        (shift / -distance).isFinite = true) ↔
      (distance.isFinite = true ∧ 1 < overflow * |exact distance|) ∧
        shift.isFinite = true ∧ |exact shift| < overflow * |exact distance| := by
  have unit : |exact (-1)| = 1 := by
    rw [exact_neg, exact_one, abs_neg, abs_one]
  have size : |exact (-distance)| = |exact distance| := by
    rw [exact_neg, abs_neg]
  have number : (-1 : Float).isFinite = true := by decide +kernel
  cases finite : distance.isFinite with
  | false =>
      -- The inverse is zero, if it is finite at all.
      have vanishes := exact_div_of_infinite (x := -1) ((isFinite_neg distance).trans finite)
      exact iff_of_false (fun usable => usable.2.1 vanishes) (fun sound => by cases sound.1.1)
  | true =>
      have divisor : (-distance).isFinite = true := (isFinite_neg distance).trans finite
      rw [isFinite_div_iff divisor, isFinite_div_iff divisor, size, unit, and_iff_right number,
        and_iff_right rfl]
      refine and_congr_right fun small => and_iff_right ?_
      have small' : |exact (-1)| < overflow * |exact (-distance)| := by
        rw [unit, size]
        exact small
      rw [Ne, exact_div_eq_zero_iff number divisor small', unit, size, not_le]
      have bound := abs_exact_lt distance
      calc
        (2 : ℚ) ^ (-1075 : Int) * |exact distance| < 2 ^ (-1075 : Int) * 2 ^ 1024 :=
          mul_lt_mul_of_pos_left bound (by positivity)
        _ ≤ 1 := by
          rw [← zpow_natCast, ← zpow_add₀ two_ne_zero]
          exact zpow_le_one_of_nonpos₀ one_le_two (by norm_num)

end Derived

theorem eq_matrixFor_of_reprojectionOf {left right : Camera} {matrix : Mat4 Float}
    (found : reprojectionOf left right = .ok matrix) :
    matrix = matrixFor left.projection right.projection (baseline right.projection) := by
  rw [reprojectionOf, reprojection] at found
  split at found
  · cases found
  · split at found
    · cases found
    · cases found
      rfl

/-- A derived matrix is usable exactly if the pair that it is derived from is sound. -/
theorem usable_iff_sound {left right : Camera} {matrix : Mat4 Float} {width height : Int}
    (found : reprojectionOf left right = .ok matrix)
    (wide : left.width = .int width) (high : left.height = .int height) :
    Working.Usable ⟨matrix, (width, height)⟩ ↔ Sound left right := by
  obtain rfl := eq_matrixFor_of_reprojectionOf found
  have inverse := isFinite_inverse_iff (baseline right.projection)
    (centreX left.projection - centreX right.projection)
  have focal : (focalLength left.projection).isFinite = true →
      ((focalLength left.projection == 0) = false ↔ exact (focalLength left.projection) ≠ 0) := by
    intro finite
    rw [← Bool.not_eq_true, beq_zero_iff, and_iff_right finite]
  constructor
  · rintro ⟨finite, nonsingular, size⟩
    rw [finite_matrixFor_iff] at finite
    rw [det_matrixFor, neg_ne_zero, mul_ne_zero_iff] at nonsingular
    rcases finite with ⟨centre, length, unit, shifted⟩
    rcases inverse.mp ⟨unit, nonsingular.2, shifted⟩ with ⟨distance, shift⟩
    exact {
      centre := centre
      focal := ⟨length, (focal length).mpr nonsingular.1⟩
      distance := distance
      shift := shift
      size := ⟨width, height, wide, high, size⟩ }
  · rintro ⟨centre, ⟨length, filled⟩, distance, shift, width', height', wide', high', size⟩
    rw [wide] at wide'
    rw [high] at high'
    cases wide'
    cases high'
    rcases inverse.mpr ⟨distance, shift⟩ with ⟨unit, nonzero, shifted⟩
    refine ⟨(finite_matrixFor_iff _ _ _).mpr ⟨centre, length, unit, shifted⟩, ?_, size⟩
    rw [det_matrixFor, neg_ne_zero, mul_ne_zero_iff]
    exact ⟨(focal length).mp filled, nonzero⟩

/-- The right camera of a sound pair stands apart. -/
theorem Sound.standsApart {left right : Camera} (sound : Sound left right) :
    StandsApart right := by
  rcases sound.distance with ⟨finite, filled⟩
  constructor
  · rw [← Bool.not_eq_true, beq_zero_iff]
    rintro ⟨number, zero⟩
    have quotient := ((isFinite_div_iff number).mp finite).2
    rw [zero, abs_zero, mul_zero] at quotient
    exact quotient.not_ge (abs_nonneg _)
  · rw [← Bool.not_eq_true, beq_zero_iff]
    rintro ⟨-, zero⟩
    rw [zero, abs_zero, mul_zero] at filled
    exact filled.not_ge zero_le_one

/-- A derived matrix is singular exactly if one of two entries is zero. -/
theorem det_ne_zero_iff {left right : Camera} {matrix : Mat4 Float}
    (found : reprojectionOf left right = .ok matrix) :
    (exactMatrix matrix).det ≠ 0 ↔ exact matrix.z.w ≠ 0 ∧ exact matrix.w.z ≠ 0 := by
  obtain rfl := eq_matrixFor_of_reprojectionOf found
  rw [det_matrixFor, neg_ne_zero, mul_ne_zero_iff]
  rfl

/-! ## Runs -/

section Runs

variable (size : Int × Int)

/-- What the first enabling event settles is there at the end. -/
theorem settles_at_end {seen rest : List Event} {event : Event}
    (sized : Sized (seen ++ event :: rest)) (idle : Idle seen) (enabling : event.Enabling seen) :
    Settles size seen event
      (Run.after Event.act (fresh size) (seen ++ event :: rest)).readiness := by
  have split : seen ++ event :: rest = (seen ++ [event]) ++ rest := by simp
  rw [split] at sized
  have tracks := tracks_after size seen sized.of_append.of_append
  have unsettled := (isReady_eq_false_iff _).mp (tracks.open_iff.mpr idle)
  rcases tracks.act_enabling unsettled event enabling sized.of_append
    with ⟨readiness, logs, ready, settles, taken⟩
  rw [Run.after_append, Run.after_cons, taken, readiness_after _ ready]
  exact settles

/-- A record after which a pair stands apart is enabling. -/
theorem enabling_of_pair {seen : List Event} {event : Event} {left right : Camera}
    (record : event.isRecord = true) (known : latestLeft (seen ++ [event]) = some left)
    (partner : latestRight (seen ++ [event]) = some right) (apart : StandsApart right) :
    event.Enabling seen := by
  have pair : PairKnown (seen ++ [event]) := ⟨left, right, known, partner, apart⟩
  cases event with
  | configure numbers? => cases record
  | left camera => exact pair
  | right camera => exact pair

/--
A run leaves a calibration open exactly if no event was enabling.  A matrix that was
derived is the one of the first pair that stood apart while the calibration was open;
it is usable exactly if that pair is sound, and singular exactly if one of two entries
is zero.  A sound pair that becomes known while the calibration is open settles a
usable matrix.
-/
theorem derived_usable_iff_sound {events : List Event} (sized : Sized events) :
    ((Run.after Event.act (fresh size) events).readiness = .uninitialized ↔ Idle events) ∧
    (∀ working, (Run.after Event.act (fresh size) events).readiness = .derived working →
      ∃ seen event rest left right,
        events = seen ++ event :: rest ∧ Idle seen ∧ event.isRecord = true ∧
        latestLeft (seen ++ [event]) = some left ∧
        latestRight (seen ++ [event]) = some right ∧ StandsApart right ∧
        (working.Usable ↔ Sound left right) ∧
        ((exactMatrix working.matrix).det ≠ 0 ↔
          exact working.matrix.z.w ≠ 0 ∧ exact working.matrix.w.z ≠ 0)) ∧
    ∀ seen event rest left right,
      events = seen ++ event :: rest → Idle seen → event.isRecord = true →
      latestLeft (seen ++ [event]) = some left →
      latestRight (seen ++ [event]) = some right → Sound left right →
      ∃ working, (Run.after Event.act (fresh size) events).readiness = .derived working ∧
        working.Usable := by
  have open_iff : (Run.after Event.act (fresh size) events).readiness = .uninitialized ↔
      Idle events := by
    rw [← (tracks_after size events sized).open_iff, isReady_eq_false_iff]
  refine ⟨open_iff, ?_, ?_⟩
  · intro working derived
    rcases idle_or_first events with idle | ⟨seen, event, rest, rfl, idle, enabling⟩
    · rw [open_iff.mpr idle] at derived
      cases derived
    · have settles := settles_at_end size sized idle enabling
      rw [derived] at settles
      cases settles with
      | @derived event left right matrix width height record known partner found extent =>
          have apart := (reprojectionOf_isOk_iff left right).mp ⟨matrix, found⟩
          exact ⟨seen, event, rest, left, right, rfl, idle, record, known, partner, apart,
            usable_iff_sound found extent.1 extent.2, det_ne_zero_iff found⟩
  · rintro seen event rest left right rfl idle record known partner sound
    have enabling := enabling_of_pair record known partner sound.standsApart
    have settles := settles_at_end size sized idle enabling
    generalize (Run.after Event.act (fresh size) (seen ++ event :: rest)).readiness = readiness
      at settles
    cases settles with
    | configured entries => cases record
    | @derived event left' right' matrix width height record known' partner' found extent =>
        rw [known] at known'
        rw [partner] at partner'
        cases known'
        cases partner'
        exact ⟨_, rfl, (usable_iff_sound found extent.1 extent.2).mpr sound⟩

end Runs

/-! ## A sound pair, and one that is not -/

/-- A projection with a focal length of 450 pixels. -/
def projectionAt (offset : Float) : Mat34 Float :=
  ⟨⟨450.0, 0.0, 376.0, offset⟩, ⟨0.0, 450.0, 240.0, 0.0⟩, ⟨0.0, 0.0, 1.0, 0.0⟩⟩

def leftCamera : Camera :=
  { plainCamera with projection := projectionAt 0.0 }

/-- A camera 0.11 metres to the right. -/
def rightCamera : Camera :=
  { plainCamera with projection := projectionAt (-49.5) }

theorem distance_rightCamera : 1 < overflow * |exact (baseline rightCamera.projection)| := by
  have scaled : scaled? (baseline rightCamera.projection) =
      some ⟨false, 7926335344172073, -56⟩ := by decide +kernel
  have unit : (1 : ℚ) ≤ 2 ^ (971 : Int) := one_le_zpow₀ one_le_two (by norm_num)
  rw [exact, scaled, overflow_eq]
  generalize (2 : ℚ) ^ (971 : Int) = scale at unit
  norm_num [Scaled.value]
  linarith

theorem sound_cameras : Sound leftCamera rightCamera where
  centre := by decide +kernel
  focal := by decide +kernel
  distance := ⟨by decide +kernel, distance_rightCamera⟩
  shift := by
    have level : centreX leftCamera.projection - centreX rightCamera.projection = 0 := by
      decide +kernel
    rw [level, exact_zero, abs_zero]
    exact ⟨by decide +kernel, distance_rightCamera.trans' zero_lt_one⟩
  size := ⟨752, 480, rfl, rfl, by decide, by decide⟩

theorem sized_pair (left : Camera) (wide : left.width = .int 752) (high : left.height = .int 480)
    (right : Camera) : Sized [.left left, .right right] := by
  intro camera member
  simp only [List.mem_cons, Event.left.injEq, List.not_mem_nil, reduceCtorEq, or_false] at member
  subst member
  exact ⟨752, 480, wide, high⟩

theorem sound_cameras_usable :
    Sized [.left leftCamera, .right rightCamera] ∧
      ∃ working, (Run.after Event.act (fresh (752, 480))
        [.left leftCamera, .right rightCamera]).readiness = .derived working ∧
          working.Usable := by
  have sized := sized_pair leftCamera rfl rfl rightCamera
  have alone : ¬ (Event.left leftCamera).Enabling [] := by
    rintro ⟨left, right, -, partner, -⟩
    cases partner
  have idle : Idle [.left leftCamera] := (idle_concat_iff [] _).mpr ⟨idle_nil, alone⟩
  exact ⟨sized, (derived_usable_iff_sound (752, 480) sized).2.2 [.left leftCamera]
    (.right rightCamera) [] leftCamera rightCamera rfl idle rfl rfl rfl sound_cameras⟩

/-- A left record without any numbers is taken for a calibrated one. -/
theorem blank_record_settles :
    ¬ ∀ size events working, Sized events →
      (Run.after Event.act (fresh size) events).readiness = .derived working →
        working.Usable := by
  intro usable
  have apart : StandsApart rightCamera := sound_cameras.standsApart
  rcases (reprojectionOf_isOk_iff plainCamera rightCamera).mpr apart with ⟨matrix, found⟩
  have derived : (Run.after Event.act (fresh (752, 480))
      [.left plainCamera, .right rightCamera]).readiness = .derived ⟨matrix, (752, 480)⟩ := by
    rw [eq_matrixFor_of_reprojectionOf found]
    decide +kernel
  have sized := sized_pair plainCamera rfl rfl rightCamera
  have sound := (usable_iff_sound found rfl rfl).mp (usable _ _ _ sized derived)
  have empty : (focalLength plainCamera.projection == 0) = true := by decide +kernel
  rw [sound.focal.2] at empty
  cases empty

end MapIngest.Calibration
