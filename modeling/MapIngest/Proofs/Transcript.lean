import MapIngest.Coordinator.Basic
import MapIngest.Proofs.Ingest.Sighting

/-!
# Transcripts of components

A component that is recorded answers as it does without being recorded, and
every question is written down with its answer, in the order of asking.  So
what a run asks of a component can be read off the transcript that the run
leaves behind.

This file records sources of poses and engines.  The two calls by which an
engine takes an observation are brought under one name, an insertion, which
holds everything that the engine is given.
-/

namespace MapIngest

open MapIngest.Geometry Ingest Sensor

/-- A component with the transcript of its exchanges. -/
structure Recorded (σ κ : Type) where
  inner : σ
  transcript : List κ := []

namespace Recorded

variable {σ κ α : Type}

/-- Answer a call, and write the exchange down. -/
def call (exchange : Except Fault α → κ) (inner : Call σ α) : Call (Recorded σ κ) α :=
  fun component =>
    let (answer, after) := inner component.inner
    (answer, ⟨after, component.transcript ++ [exchange answer]⟩)

@[simp]
theorem call_fst (exchange : Except Fault α → κ) (inner : Call σ α)
    (component : Recorded σ κ) :
    (call exchange inner component).1 = (inner component.inner).1 := rfl

@[simp]
theorem call_snd (exchange : Except Fault α → κ) (inner : Call σ α)
    (component : Recorded σ κ) :
    (call exchange inner component).2 =
      ⟨(inner component.inner).2,
        component.transcript ++ [exchange (inner component.inner).1]⟩ := rfl

theorem transcript_of_call {exchange : Except Fault α → κ} {inner : Call σ α}
    {before after : Recorded σ κ} {value : α}
    (answered : call exchange inner before = (.ok value, after)) :
    after.transcript = before.transcript ++ [exchange (.ok value)] := by
  obtain ⟨answer, rfl⟩ := Prod.mk.inj answered
  rw [← answer]

end Recorded

/-! ## Sources of poses -/

namespace Ingest

/-- A question to a source of poses, and its answer. -/
inductive PoseExchange where
  /-- Whether there is a pose from one frame into another at a stamp. -/
  | canTransform (target origin : String) (stamp : Value) (answer : Except Fault Bool)
  /-- The pose from one frame into another at a stamp. -/
  | lookup (target origin : String) (stamp : Value) (answer : Except Fault (Pose Float))

/-- The pose that a source gave, if it was asked for one and had it. -/
def PoseExchange.pose? : PoseExchange → Option (Pose Float)
  | .canTransform .. => none
  | .lookup _ _ _ answer => answer.toOption

variable {τ : Type}

/-- A source of poses that keeps a transcript. -/
def PoseSource.recorded (poses : PoseSource τ) : PoseSource (Recorded τ PoseExchange) where
  canTransform target origin stamp :=
    Recorded.call (.canTransform target origin stamp) (poses.canTransform target origin stamp)
  lookup target origin stamp :=
    Recorded.call (.lookup target origin stamp) (poses.lookup target origin stamp)

theorem PoseSource.Reliable.recorded {poses : PoseSource τ} (reliable : poses.Reliable) :
    poses.recorded.Reliable where
  canTransform target origin stamp source :=
    reliable.canTransform target origin stamp source.inner
  lookup target origin stamp source := reliable.lookup target origin stamp source.inner

/-- The exchanges of which a sighting consists. -/
def Sighting.exchanges (sighting : Sighting τ) (target origin : String) (stamp : Value) :
    List PoseExchange :=
  [.canTransform target origin stamp sighting.found,
    .lookup target origin (stampFor sighting.found stamp) sighting.answer]

/-- The pose of a sighting is the one in its exchanges. -/
theorem Sighting.findSome?_exchanges (sighting : Sighting τ) (target origin : String)
    (stamp : Value) :
    (sighting.exchanges target origin stamp).findSome? PoseExchange.pose? =
      sighting.answer.toOption := by
  cases answer : sighting.answer with
  | ok pose =>
      rw [exchanges, answer]
      rfl
  | error fault =>
      rw [exchanges, answer]
      rfl

/-- A sighting of a recorded source adds its exchanges to the transcript. -/
theorem PoseSource.sight_recorded (poses : PoseSource τ) (target origin : String)
    (stamp : Value) (source : Recorded τ PoseExchange) :
    (poses.recorded.sight target origin stamp source).source.transcript =
      source.transcript ++
        (poses.recorded.sight target origin stamp source).exchanges target origin stamp := by
  simp [PoseSource.sight, PoseSource.recorded, Sighting.exchanges]

end Ingest

/-! ## Engines -/

/-- Everything that an engine is given with an observation. -/
inductive Insertion where
  | disparity (pose : Pose Float) (image : DisparityImage) (matrix : Mat4 Float)
      (size : Int × Int)
  | points (pose : Pose Float) (points : Value)

/-- The stream that an insertion belongs to. -/
def Insertion.stream : Insertion → Stream
  | .disparity .. => .disparity
  | .points .. => .pointcloud

/-- A question to an engine, and its answer. -/
inductive EngineExchange where
  | setParameters (params : Config.EngineParams) (answer : Except Fault Unit)
  | insertion (insertion : Insertion) (answer : Except Fault Unit)
  | setOccupied (centre size : Vec3 Float) (answer : Except Fault Unit)
  | setFree (centre size : Vec3 Float) (answer : Except Fault Unit)
  | reset (answer : Except Fault Unit)
  | markers (frame : String) (answer : Except Fault (Value × Value))
  | binaryMap (answer : Except Fault (Option Snapshot))
  | fullMap (answer : Except Fault (Option Snapshot))
  | save (path : String) (answer : Except Fault Value)
  | load (path : String) (answer : Except Fault Value)

namespace EngineExchange

/-- The insertion that an exchange is, with its answer, if it is one. -/
def insertion? : EngineExchange → Option (Insertion × Except Fault Unit)
  | .insertion given answer => some (given, answer)
  | _ => none

end EngineExchange

namespace MapEngine

variable {ε : Type}

/-- Take an observation of either stream. -/
def insert (engine : MapEngine ε) : Insertion → Call ε Unit
  | .disparity pose image matrix size => engine.insertDisparity pose image matrix size
  | .points pose points => engine.insertPoints pose points

/-- No insertion is interrupted; it may fail in any other way. -/
def Uninterrupted (engine : MapEngine ε) : Prop :=
  ∀ insertion state fault, (engine.insert insertion state).1 = .error fault →
    fault.kind ≠ .interrupt

/-- An engine that keeps a transcript. -/
def recorded (engine : MapEngine ε) : MapEngine (Recorded ε EngineExchange) where
  setParameters params := Recorded.call (.setParameters params) (engine.setParameters params)
  insertDisparity pose image matrix size :=
    Recorded.call (.insertion (.disparity pose image matrix size))
      (engine.insertDisparity pose image matrix size)
  insertPoints pose points :=
    Recorded.call (.insertion (.points pose points)) (engine.insertPoints pose points)
  setOccupied centre size :=
    Recorded.call (.setOccupied centre size) (engine.setOccupied centre size)
  setFree centre size := Recorded.call (.setFree centre size) (engine.setFree centre size)
  reset := Recorded.call .reset engine.reset
  markers frame := Recorded.call (.markers frame) (engine.markers frame)
  binaryMap := Recorded.call .binaryMap engine.binaryMap
  fullMap := Recorded.call .fullMap engine.fullMap
  save path := Recorded.call (.save path) (engine.save path)
  load path := Recorded.call (.load path) (engine.load path)

theorem recorded_insert (engine : MapEngine ε) (insertion : Insertion) :
    engine.recorded.insert insertion =
      Recorded.call (.insertion insertion) (engine.insert insertion) := by
  cases insertion <;> rfl

theorem Uninterrupted.recorded {engine : MapEngine ε} (uninterrupted : engine.Uninterrupted) :
    engine.recorded.Uninterrupted := by
  intro insertion component fault failed
  rw [recorded_insert] at failed
  exact uninterrupted insertion component.inner fault failed

end MapEngine

/-! ## Components that oblige -/

/-- A source of poses that has one pose for every frame and stamp. -/
def Ingest.PoseSource.always (pose : Pose Float) : PoseSource Unit where
  canTransform _ _ _ _ := (.ok true, ())
  lookup _ _ _ _ := (.ok pose, ())

theorem Ingest.PoseSource.always_reliable (pose : Pose Float) :
    (PoseSource.always pose).Reliable where
  canTransform _ _ _ _ := ⟨true, rfl⟩
  lookup _ _ _ _ _ failed := by cases failed

/-- An engine that takes everything and has nothing to show. -/
def MapEngine.blank : MapEngine Unit where
  setParameters _ _ := (.ok (), ())
  insertDisparity _ _ _ _ _ := (.ok (), ())
  insertPoints _ _ _ := (.ok (), ())
  setOccupied _ _ _ := (.ok (), ())
  setFree _ _ _ := (.ok (), ())
  reset _ := (.ok (), ())
  markers _ _ := (.ok (.null, .null), ())
  binaryMap _ := (.ok none, ())
  fullMap _ := (.ok none, ())
  save _ _ := (.ok (.bool true), ())
  load _ _ := (.ok (.bool true), ())

theorem MapEngine.blank_uninterrupted : MapEngine.blank.Uninterrupted := by
  intro insertion state fault failed
  cases insertion <;> cases failed

/-- Components that answer everything. -/
def Components.obliging : Components Unit Unit Unit where
  engine := .blank
  poses := .always Pose.identity
  board := ⟨fun _ _ => (.ok (), ())⟩

/-- Components of which the source of poses and the engine keep transcripts. -/
def Components.recorded {ε τ π : Type} (components : Components ε τ π) :
    Components (Recorded ε EngineExchange) (Recorded τ PoseExchange) π where
  engine := components.engine.recorded
  poses := components.poses.recorded
  board := components.board

/-- A coordinator whose engine and source of poses keep transcripts. -/
abbrev RecordedCoordinator (ε τ π : Type) :=
  Coordinator (Recorded ε EngineExchange) (Recorded τ PoseExchange) π

end MapIngest
