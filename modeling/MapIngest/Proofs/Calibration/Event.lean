import MapIngest.Calibration.State
import MapIngest.Proofs.Act
import MapIngest.Proofs.Run
import MapIngest.Proofs.Tensor

/-!
# What happens to a calibration

A calibration is offered numbers by the configuration and records by the two
cameras, in any order and number.  This file names these events, says what an
event has to do with the events before it, and computes what each of them does
to a calibration.

An event is enabling when it alone could settle the matrix: sixteen numbers, or
a record after which both cameras are known and the latest right record has a
focal length and a distance.  Whether an event is enabling depends on the
events before it, not on what the calibration has made of them.
-/

namespace MapIngest.Calibration

open MapIngest.Geometry

/-- What may happen to a calibration. -/
inductive Event where
  /-- The configuration offers numbers for the matrix, or none. -/
  | configure (numbers? : Option (List Float))
  | left (camera : Camera)
  | right (camera : Camera)

namespace Event

/-- The numbers of a configuration as a value. -/
def offered : Option (List Float) → Value
  | none => .null
  | some numbers => .list (numbers.map .float)

/-- What an event does; a configuration is told whether its numbers were taken over. -/
def act : Event → Act Calibration (Option Bool)
  | .configure numbers? => do return some (← Calibration.configure (offered numbers?))
  | .left camera => do
    takeLeft camera
    return none
  | .right camera => do
    takeRight camera
    return none

/-- The record that an event brings from the left camera. -/
def left? : Event → Option Camera
  | .left camera => some camera
  | _ => none

/-- The record that an event brings from the right camera. -/
def right? : Event → Option Camera
  | .right camera => some camera
  | _ => none

end Event

/-- The latest record of the left camera. -/
def latestLeft (events : List Event) : Option Camera :=
  (events.filterMap Event.left?).getLast?

/-- The latest record of the right camera. -/
def latestRight (events : List Event) : Option Camera :=
  (events.filterMap Event.right?).getLast?

/-- A right camera that has a focal length and stands apart from the left one. -/
def StandsApart (right : Camera) : Prop :=
  (focalLength right.projection == 0) = false ∧ (baseline right.projection == 0) = false

/-- Both cameras are known, and the right one stands apart. -/
def PairKnown (events : List Event) : Prop :=
  ∃ left right, latestLeft events = some left ∧ latestRight events = some right ∧
    StandsApart right

/-- Whether an event brings a record. -/
def Event.isRecord : Event → Bool
  | .configure _ => false
  | _ => true

/-- An event that could settle the matrix, given the events before it. -/
def Event.Enabling (seen : List Event) : Event → Prop
  | .configure none => False
  | .configure (some numbers) => numbers.length = 16
  | record => PairKnown (seen ++ [record])

/-- No event of a sequence is enabling. -/
def Idle (events : List Event) : Prop :=
  ∀ seen event rest, events = seen ++ event :: rest → ¬ event.Enabling seen

/-- An entry of a matrix, by its row and its column. -/
def entry? (matrix : Mat4 Float) (row column : Nat) : Option Float :=
  (Mat4.toRows matrix)[row]?.bind (·[column]?)

/--
What an enabling event settles, given the configured size and the events
before it: the numbers row by row with the configured size, or the matrix of
the latest pair with the size of its left record.
-/
inductive Settles (size : Int × Int) (seen : List Event) : Event → Readiness → Prop where
  | configured {numbers : List Float} {matrix : Mat4 Float}
      (entries : ∀ row column, row < 4 → column < 4 →
        entry? matrix row column = numbers[4 * row + column]?) :
      Settles size seen (.configure (some numbers)) (.configured ⟨matrix, size⟩)
  | derived {event : Event} {left right : Camera} {matrix : Mat4 Float} {width height : Int}
      (record : event.isRecord = true)
      (known : latestLeft (seen ++ [event]) = some left)
      (partner : latestRight (seen ++ [event]) = some right)
      (found : reprojectionOf left right = .ok matrix)
      (sized : left.width = .int width ∧ left.height = .int height) :
      Settles size seen event (.derived ⟨matrix, (width, height)⟩)

/-! ## What an event does -/

namespace Event

/-- What an event is told, given whether it settled the matrix. -/
def reply (settled : Bool) : Event → Option Bool
  | .configure _ => some settled
  | _ => none

theorem reply_record {event : Event} (record : event.isRecord = true) (settled : Bool) :
    event.reply settled = none := by
  cases event with
  | configure numbers? => cases record
  | left camera => rfl
  | right camera => rfl

/-- A calibration with the record that an event brings. -/
def remember (calibration : Calibration) : Event → Calibration
  | .configure _ => calibration
  | .left camera => { calibration with left? := some camera }
  | .right camera => { calibration with right? := some camera }

@[simp]
theorem remember_configuredSize (event : Event) (calibration : Calibration) :
    (event.remember calibration).configuredSize = calibration.configuredSize := by
  cases event <;> rfl

@[simp]
theorem remember_readiness (event : Event) (calibration : Calibration) :
    (event.remember calibration).readiness = calibration.readiness := by
  cases event <;> rfl

end Event

/-- Only a calibration without a matrix is not ready. -/
theorem isReady_eq_false_iff (readiness : Readiness) :
    readiness.isReady = false ↔ readiness = .uninitialized := by
  cases readiness <;> simp [Readiness.isReady, Readiness.working?]

/-- Sixteen numbers are laid out row by row. -/
theorem toMat4_of_length (numbers : List Float) (length : numbers.length = 16) :
    ∃ matrix, Tensor.toMat4 ⟨[numbers.length], numbers⟩ = .ok matrix ∧
      ∀ row column, row < 4 → column < 4 →
        entry? matrix row column = numbers[4 * row + column]? := by
  rcases Tensor.quadruples?_of_length 4 numbers length with ⟨rows, cut, count, places⟩
  match rows, count with
  | [x, y, z, w], _ =>
      refine ⟨⟨x, y, z, w⟩, ?_, ?_⟩
      · simp [Tensor.toMat4, cut, Vec4.ofList?, Tensor.laidOut]
      · intro row column _ inside
        have rowsOf : Mat4.toRows ⟨x, y, z, w⟩ = [x, y, z, w].map Vec4.toList := rfl
        rw [← places row column inside, entry?, rowsOf, List.getElem?_map, Option.bind_map]
        rfl

/-- A pair has a matrix exactly if the right camera stands apart. -/
theorem reprojectionOf_isOk_iff (left right : Camera) :
    (∃ matrix, reprojectionOf left right = .ok matrix) ↔ StandsApart right := by
  unfold reprojectionOf reprojection StandsApart
  cases focalLength right.projection == 0 <;> cases baseline right.projection == 0 <;>
    simp [Except.mapError]

theorem settle_ready (matrix : Mat4 Float) (calibration : Calibration)
    (ready : calibration.readiness.isReady = true) :
    (settle matrix).run calibration =
      ⟨.ok false, calibration, [alreadySettled calibration.readiness]⟩ := by
  simp [settle, ready, Except.map]

theorem settle_open (matrix : Mat4 Float) (calibration : Calibration)
    (unsettled : calibration.readiness.isReady = false) :
    (settle matrix).run calibration =
      ⟨.ok true,
        { calibration with readiness := .configured ⟨matrix, calibration.configuredSize⟩ },
        [settledByConfiguration]⟩ := by
  simp [settle, unsettled, Except.map]

/-- An offer of sixteen numbers is an offer of one matrix. -/
theorem run_configure_matrix (numbers : List Float) (length : numbers.length = 16) :
    ∃ matrix,
      (∀ row column, row < 4 → column < 4 →
        entry? matrix row column = numbers[4 * row + column]?) ∧
      ∀ calibration,
        (configure (Event.offered (some numbers))).run calibration =
          (settle matrix).run calibration := by
  rcases toMat4_of_length numbers length with ⟨matrix, laidOut, entries⟩
  refine ⟨matrix, entries, fun calibration => ?_⟩
  have fits : numbers.length = matrixLength := length
  rw [fits] at laidOut
  simp [Event.offered, configure, Value.items, fits, Tensor.ofValue_floats, laidOut]

/-- An offer of no numbers, or of any other count of numbers, changes nothing. -/
theorem run_configure_refused (numbers? : Option (List Float))
    (refused : ∀ numbers, numbers? = some numbers → numbers.length ≠ 16)
    (calibration : Calibration) :
    ∃ logs, (configure (Event.offered numbers?)).run calibration =
      ⟨.ok false, calibration, logs⟩ := by
  cases numbers? with
  | none => exact ⟨[], rfl⟩
  | some numbers =>
      have unfit : numbers.length ≠ matrixLength := refused numbers rfl
      refine ⟨[wrongLength numbers.length], ?_⟩
      simp [Event.offered, configure, Value.items, unfit, Except.map]

/-- An offer of numbers is always answered. -/
theorem configure_returns (numbers? : Option (List Float)) (calibration : Calibration) :
    ∃ answer, ((configure (Event.offered numbers?)).run calibration).result = .ok answer := by
  by_cases fits : ∃ numbers, numbers? = some numbers ∧ numbers.length = 16
  · rcases fits with ⟨numbers, rfl, length⟩
    rcases run_configure_matrix numbers length with ⟨matrix, -, taken⟩
    rw [taken]
    cases ready : calibration.readiness.isReady with
    | true => exact ⟨false, by rw [settle_ready matrix calibration ready]⟩
    | false => exact ⟨true, by rw [settle_open matrix calibration ready]⟩
  · obtain ⟨logs, refused⟩ := run_configure_refused numbers?
      (fun numbers given length => fits ⟨numbers, given, length⟩) calibration
    exact ⟨false, by rw [refused]⟩

theorem deriveIfOpen_ready (calibration : Calibration)
    (ready : calibration.readiness.isReady = true) :
    deriveIfOpen.run calibration = ⟨.ok (), calibration, []⟩ := by
  cases readiness : calibration.readiness with
  | uninitialized => simp [readiness, Readiness.isReady, Readiness.working?] at ready
  | configured working => simp [deriveIfOpen, readiness]
  | derived working => simp [deriveIfOpen, readiness]

/-- Without a pair that stands apart, an open calibration stays as it is. -/
theorem deriveIfOpen_unpaired (calibration : Calibration)
    (unsettled : calibration.readiness = .uninitialized)
    (unpaired : ∀ left right, calibration.left? = some left →
      calibration.right? = some right → ¬ StandsApart right) :
    ∃ logs, deriveIfOpen.run calibration = ⟨.ok (), calibration, logs⟩ := by
  cases left : calibration.left? with
  | none => exact ⟨[], by simp [deriveIfOpen, unsettled, left]⟩
  | some camera =>
      cases right : calibration.right? with
      | none => exact ⟨[], by simp [deriveIfOpen, unsettled, left, right]⟩
      | some partner =>
          have missing : ∀ matrix, reprojectionOf camera partner ≠ .ok matrix := by
            intro matrix found
            exact unpaired camera partner left right
              ((reprojectionOf_isOk_iff camera partner).mp ⟨matrix, found⟩)
          cases found : reprojectionOf camera partner with
          | ok matrix => exact (missing matrix found).elim
          | error fault =>
              exact ⟨[notDerived fault], by
                simp [deriveIfOpen, derive, unsettled, left, right, found]⟩

/-- A pair that stands apart settles an open calibration. -/
theorem deriveIfOpen_paired (calibration : Calibration) {left right : Camera}
    {size : Int × Int} {matrix : Mat4 Float}
    (unsettled : calibration.readiness = .uninitialized)
    (known : calibration.left? = some left) (partner : calibration.right? = some right)
    (found : reprojectionOf left right = .ok matrix) (sized : left.size = .ok size) :
    deriveIfOpen.run calibration =
      ⟨.ok (), { calibration with readiness := .derived ⟨matrix, size⟩ },
        [settledByCameras left right size]⟩ := by
  simp [deriveIfOpen, derive, unsettled, known, partner, found, sized]

/-- A record is stored, and then the matrix is derived if that can be done. -/
theorem act_record {event : Event} (record : event.isRecord = true)
    (calibration : Calibration) :
    event.act.run calibration =
      ⟨(deriveIfOpen.run (event.remember calibration)).result.map fun _ => none,
        (deriveIfOpen.run (event.remember calibration)).state,
        (deriveIfOpen.run (event.remember calibration)).logs⟩ := by
  cases event with
  | configure numbers? => cases record
  | left camera => simp [Event.act, takeLeft, Event.remember]
  | right camera => simp [Event.act, takeRight, Event.remember]

end MapIngest.Calibration
