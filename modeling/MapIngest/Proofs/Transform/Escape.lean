import MapIngest.Proofs.Coordinator.Passage
import MapIngest.Proofs.Geometry.Reading
import MapIngest.Transform.Buffer

/-!
# Which failures of a buffer escape

A well-behaved buffer answers or fails in one of the ways that are expected of
it: for want of a transform, or because it cannot make sense of a question; and
the messages that it answers with carry seven doubles.  As a source of poses it
is meant never to fail in any other way than for want of a pose.

Two failures escape nevertheless.  If the buffer has no transform when it is
asked whether there is one, its failure is passed on, although the same failure
of a look-up is caught.  And a message whose quaternion has no direction is
read outside of what is caught.  This file proves that nothing else escapes:
finding a pose, and inserting an observation, return exactly if neither of the
two happens.
-/

namespace MapIngest.Transform

open MapIngest.Geometry Ingest Sensor

variable {β : Type}

/-- A buffer that answers with doubles, and fails in the expected ways only. -/
structure Buffer.Regular (buffer : Buffer β) : Prop where
  canTransform : ∀ target origin nanoseconds state fault,
    (buffer.canTransform target origin nanoseconds state).1 = .error fault →
      isMissing fault.kind = true
  lookup : ∀ target origin nanoseconds timeout state fault,
    (buffer.lookup target origin nanoseconds timeout state).1 = .error fault →
      isMissing fault.kind = true
  message : ∀ target origin nanoseconds timeout state message,
    (buffer.lookup target origin nanoseconds timeout state).1 = .ok message →
      ∃ position q, Carries message position q

/-- A stamp that is absent or has seconds and nanoseconds, and the time it stands for. -/
inductive Timed : Value → Int → Prop where
  | absent : Timed .null latest
  | message {stamp : Value} {seconds nanoseconds : Int}
      (whole : stamp.field "sec" = .ok (.int seconds))
      (part : stamp.field "nanosec" = .ok (.int nanoseconds)) :
      Timed stamp (instant seconds nanoseconds)

theorem Timed.nanosecondsOf {stamp : Value} {time : Int} (timed : Timed stamp time) :
    nanosecondsOf stamp = .ok time := by
  cases timed with
  | absent => rfl
  | message whole part =>
      cases stamp with
      | scalar content => cases whole
      | list items => cases whole
      | mapping entries =>
          simp only [Transform.nanosecondsOf]
          exact bind_eq_ok.mpr ⟨_, whole, bind_eq_ok.mpr ⟨_, part, rfl⟩⟩

/-- The time that is looked up, given the answer to the first question. -/
def timeFor (found : Except Fault Bool) (nanoseconds : Int) : Int :=
  match found with
  | .ok true => nanoseconds
  | _ => latest

/--
A failure escapes: the buffer has no transform when it is asked whether there
is one, or it answers with a quaternion that has no direction.
-/
def Buffer.Escapes (buffer : Buffer β) (timeout : Float) (target origin : String)
    (nanoseconds : Int) (state : β) : Prop :=
  let asked := buffer.canTransform target origin nanoseconds state
  (∃ fault, asked.1 = .error fault ∧ fault.kind = .transform) ∨
    ∃ message position q,
      (buffer.lookup target origin (timeFor asked.1 nanoseconds) timeout asked.2).1 =
          .ok message ∧
        Carries message position q ∧ unit? q = none

/-! ## What the source of poses answers -/

/-- The first question is answered, unless the buffer has no transform. -/
theorem orDenied_isOk_iff {answer : Except Fault Bool}
    (expected : ∀ fault, answer = .error fault → isMissing fault.kind = true) :
    (∃ found, Buffer.orDenied answer = .ok found) ↔
      ¬ ∃ fault, answer = .error fault ∧ fault.kind = .transform := by
  cases answer with
  | ok found => simp [Buffer.orDenied]
  | error fault =>
      have missing := expected fault rfl
      simp only [Buffer.orDenied, Except.error.injEq, exists_eq_left']
      -- Of the expected failures, only that of a missing transform is not caught.
      by_cases transform : fault.kind = .transform
      · simp [transform, isUnclear, Kind.isValue]
      · have unclear : isUnclear fault.kind = true := by
          simpa [isMissing, transform] using missing
        simp [transform, unclear]

/-- A look-up fails for want of a pose at most, unless a quaternion has no direction. -/
theorem poseOf_obeys_iff {answer : Except Fault Value} (target origin : String)
    (expected : ∀ fault, answer = .error fault → isMissing fault.kind = true)
    (carried : ∀ message, answer = .ok message → ∃ position q, Carries message position q) :
    (∀ fault, Buffer.poseOf target origin answer = .error fault → fault.kind = .pose) ↔
      ¬ ∃ message position q, answer = .ok message ∧ Carries message position q ∧
        unit? q = none := by
  cases answer with
  | error fault =>
      have missing := expected fault rfl
      constructor
      · rintro - ⟨message, position, q, equal, -⟩
        cases equal
      · intro _ failure failed
        rw [Buffer.poseOf, if_pos missing] at failed
        cases failed
        rfl
  | ok message =>
      rcases carried message rfl with ⟨position, q, carries⟩
      constructor
      · rintro obeys ⟨same, place, turn, equal, holds, undirected⟩
        cases equal
        have read := holds.ofMessage
        rw [ofNumbers_eq, undirected] at read
        have wrong := obeys _ (read.trans rfl)
        cases wrong
      · intro directed fault failed
        have read := carries.ofMessage
        rw [ofNumbers_eq] at read
        cases direction : unit? q with
        | none => exact (directed ⟨message, position, q, rfl, carries, direction⟩).elim
        | some unit =>
            rw [direction] at read
            rw [Buffer.poseOf, read] at failed
            cases failed

section Sightings

variable {buffer : Buffer β} (regular : buffer.Regular) (timeout : Float)
  (target origin : String) {stamp : Value} {nanoseconds : Int}
  (timed : nanosecondsOf stamp = .ok nanoseconds) (state : β)

include timed

/-- A buffer is asked about the stamp, and then for the transform at the stamp or the latest. -/
theorem sight_eq :
    let asked := buffer.canTransform target origin nanoseconds state
    let looked := buffer.lookup target origin (timeFor asked.1 nanoseconds) timeout asked.2
    (buffer.poses timeout).sight target origin stamp state =
      ⟨Buffer.orDenied asked.1, Buffer.poseOf target origin looked.1, looked.2⟩ := by
  intro asked looked
  have chosen : nanosecondsOf (stampFor (Buffer.orDenied asked.1) stamp) =
      .ok (timeFor asked.1 nanoseconds) := by
    cases asked.1 with
    | ok found => cases found <;> simp [Buffer.orDenied, stampFor, timeFor, timed, latestStamp]
    | error fault =>
        simp only [Buffer.orDenied]
        split <;> simp [stampFor, timeFor, latestStamp]
  simp only [PoseSource.sight, Buffer.poses, Buffer.canPose, Buffer.lookupPose,
    Buffer.atStamp, timed]
  rw [chosen]

include regular

/-- A sighting obeys exactly if no failure escapes. -/
theorem sight_obeys_iff :
    ((buffer.poses timeout).sight target origin stamp state).Obeys ↔
      ¬ buffer.Escapes timeout target origin nanoseconds state := by
  have first := orDenied_isOk_iff
    (regular.canTransform target origin nanoseconds state)
  have second := fun time state => poseOf_obeys_iff target origin
    (regular.lookup target origin time timeout state)
    (regular.message target origin time timeout state)
  rw [sight_eq timeout target origin timed state, Buffer.Escapes, not_or, ← first]
  constructor
  · rintro ⟨found, answer⟩
    exact ⟨found, (second _ _).mp answer⟩
  · rintro ⟨found, answer⟩
    exact ⟨found, (second _ _).mpr answer⟩

end Sightings

/-! ## What is returned -/

/--
Finding a pose returns exactly if no failure of the buffer escapes.  So does an
insertion, unless the observation is not ready and no pose is sought.
-/
theorem returns_iff_not_escapes {ε π : Type} (buffer : Buffer β) (regular : buffer.Regular)
    (timeout : Float) (engine : MapEngine ε) (uninterrupted : engine.Uninterrupted)
    (board : PublicationBoard π) :
    (∀ origin target stamp time, Timed stamp time → ∀ desk : PoseDesk β,
      (∃ found?, ((PoseDesk.resolve (buffer.poses timeout) origin target stamp).run
          desk).result = .ok found?) ↔
        ¬ buffer.Escapes timeout target origin time desk.source) ∧
    ∀ (observation : Observation) time, Timed observation.stamp time → observation.Shaped →
      ∀ coordinator : Coordinator ε β π,
        (∃ inserted, ((Coordinator.insert ⟨engine, buffer.poses timeout, board⟩
            observation).run coordinator).result = .ok inserted) ↔
          ((observation.handOver? coordinator.calibration.readiness).isSome →
            ¬ buffer.Escapes timeout coordinator.worldFrame observation.frame time
              coordinator.source) := by
  constructor
  · intro origin target stamp time timed desk
    rw [PoseDesk.resolve_isOk_iff]
    exact sight_obeys_iff regular timeout target origin timed.nanosecondsOf desk.source
  · intro observation time timed shaped coordinator
    rw [Coordinator.insert_isOk_iff uninterrupted shaped]
    have obeys := sight_obeys_iff regular timeout coordinator.worldFrame observation.frame
      timed.nanosecondsOf coordinator.source
    exact ⟨fun sighted ready => obeys.mp (sighted ready),
      fun contained ready => obeys.mpr (contained ready)⟩

/-- A buffer that has no transform, whatever it is asked. -/
def vacantBuffer : Buffer Unit where
  canTransform _ _ _ _ := (.error (.raised .transform "no transform"), ())
  lookup _ _ _ _ _ := (.error (.raised .transform "no transform"), ())

theorem vacantBuffer_regular : vacantBuffer.Regular where
  canTransform := by
    rintro _ _ _ _ fault failed
    cases failed
    rfl
  lookup := by
    rintro _ _ _ _ _ fault failed
    cases failed
    rfl
  message := by
    rintro _ _ _ _ _ message returned
    cases returned

/-- A transform message whose quaternion has no direction. -/
def directionless : Value :=
  .mapping [(.text "transform", .mapping [
    (.text "translation", .mapping (vectorNames.map fun name => (.text name, .float 0.0))),
    (.text "rotation", .mapping (quaternionNames.map fun name => (.text name, .float 0.0)))])]

/-- A buffer that answers with a quaternion that has no direction. -/
def directionlessBuffer : Buffer Unit where
  canTransform _ _ _ _ := (.ok true, ())
  lookup _ _ _ _ _ := (.ok directionless, ())

theorem directionlessBuffer_regular : directionlessBuffer.Regular where
  canTransform := by
    rintro _ _ _ _ fault failed
    cases failed
  lookup := by
    rintro _ _ _ _ _ fault failed
    cases failed
  message := by
    rintro _ _ _ _ _ message returned
    cases returned
    exact ⟨⟨0.0, 0.0, 0.0⟩, ⟨0.0, 0.0, 0.0, 0.0⟩, ⟨_, _, _, rfl, rfl, rfl, rfl, rfl⟩⟩

/-- No pose is found, and no failure contained, in a buffer that has no transform. -/
theorem vacantBuffer_escapes :
    vacantBuffer.Regular ∧ MapEngine.blank.Uninterrupted ∧ Timed .null latest ∧
      ¬ ∃ found?, ((PoseDesk.resolve (vacantBuffer.poses 0.05) "camera" "world" .null).run
        ⟨(), none⟩).result = .ok found? := by
  refine ⟨vacantBuffer_regular, MapEngine.blank_uninterrupted, .absent, ?_⟩
  rw [(returns_iff_not_escapes vacantBuffer vacantBuffer_regular 0.05 MapEngine.blank
    MapEngine.blank_uninterrupted Components.obliging.board).1 "camera" "world" .null latest
    .absent ⟨(), none⟩]
  exact fun contained => contained (Or.inl ⟨_, rfl, rfl⟩)

/-- Both failures escape: that of the first question, and that of reading a message. -/
theorem two_failures_escape :
    (vacantBuffer.Regular ∧
      ((PoseDesk.resolve (vacantBuffer.poses 0.05) "camera" "world" .null).run
        ⟨(), none⟩).result = .error (.raised .transform "no transform")) ∧
    directionlessBuffer.Regular ∧
      ((PoseDesk.resolve (directionlessBuffer.poses 0.05) "camera" "world" .null).run
        ⟨(), none⟩).result = .error (.conversion .zeroNorm) :=
  ⟨⟨vacantBuffer_regular, rfl⟩, directionlessBuffer_regular, by decide⟩

end MapIngest.Transform
