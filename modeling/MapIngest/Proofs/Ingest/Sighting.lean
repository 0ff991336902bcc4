import MapIngest.Ingest.Poses
import MapIngest.Proofs.Act

/-!
# What a source of poses is asked

To find a pose, a source is asked two questions: whether there is a pose at the
stamp, and then for the pose at that stamp or for the latest one.  The two
answers together are a sighting.  Finding a pose comes to the answers of one
sighting: it returns exactly if the first question was answered and the second
one failed for want of a pose at most.
-/

namespace MapIngest.Ingest

open MapIngest.Geometry

variable {τ : Type}

/-- The answers of a source of poses to both questions, and the source after them. -/
structure Sighting (τ : Type) where
  found : Except Fault Bool
  answer : Except Fault (Pose Float)
  source : τ

/-- The stamp that is looked up, given the answer to the first question. -/
def stampFor (found : Except Fault Bool) (stamp : Value) : Value :=
  match found with
  | .ok true => stamp
  | _ => latestStamp

/-- Whether the latest pose stands in, given the answer to the first question. -/
def fellBack (found : Except Fault Bool) : Bool :=
  match found with
  | .ok true => false
  | _ => true

/-- What is reported about the first question. -/
def stampRecords (found : Except Fault Bool) : List LogRecord :=
  if fellBack found then [PoseDesk.fallbackRecord] else []

/-- Count that the latest pose stood in, if it did. -/
def noteStamp (found : Except Fault Bool) (stats : Stats) : Stats :=
  if fellBack found then
    { stats with latestFallbacks := stats.latestFallbacks + 1 }
  else
    stats

/-- Only the count of stand-ins is touched. -/
@[simp]
theorem get_noteStamp (found : Except Fault Bool) (stats : Stats) (stream : Stream)
    (counter : Counter) :
    (noteStamp found stats).get stream counter = stats.get stream counter := by
  unfold noteStamp
  split
  · cases stream <;> rfl
  · rfl

/-- Ask both questions about a frame at a stamp. -/
def PoseSource.sight (poses : PoseSource τ) (target origin : String) (stamp : Value)
    (source : τ) : Sighting τ :=
  let asked := poses.canTransform target origin stamp source
  let looked := poses.lookup target origin (stampFor asked.1 stamp) asked.2
  ⟨asked.1, looked.1, looked.2⟩

/-- The first question is answered, and the second fails for want of a pose at most. -/
structure Sighting.Obeys (sighting : Sighting τ) : Prop where
  found : ∃ found, sighting.found = .ok found
  answer : ∀ fault, sighting.answer = .error fault → fault.kind = .pose

/-- A source of poses whose every sighting obeys. -/
structure PoseSource.Reliable (poses : PoseSource τ) : Prop where
  canTransform : ∀ target origin stamp source,
    ∃ found, (poses.canTransform target origin stamp source).1 = .ok found
  lookup : ∀ target origin stamp source fault,
    (poses.lookup target origin stamp source).1 = .error fault → fault.kind = .pose

theorem PoseSource.Reliable.sight {poses : PoseSource τ} (reliable : poses.Reliable)
    (target origin : String) (stamp : Value) (source : τ) :
    (poses.sight target origin stamp source).Obeys where
  found := reliable.canTransform target origin stamp source
  answer := reliable.lookup target origin _ _

namespace Sighting

/-- What finding a pose comes to. -/
def result (sighting : Sighting τ) : Except Fault (Option (Pose Float)) :=
  match sighting.found, sighting.answer with
  | .error fault, _ => .error fault
  | .ok _, .ok pose => .ok (some pose)
  | .ok _, .error fault => if fault.kind = .pose then .ok none else .error fault

/-- What is reported about a sighting. -/
def records (sighting : Sighting τ) : List LogRecord :=
  stampRecords sighting.found ++
    match sighting.answer with
    | .ok _ => []
    | .error fault => if fault.kind = .pose then [PoseDesk.failureRecord fault] else []

/-- A sighting gives a pose or none exactly if it obeys. -/
theorem result_isOk_iff (sighting : Sighting τ) :
    (∃ found?, sighting.result = .ok found?) ↔ sighting.Obeys := by
  rcases sighting with ⟨found, answer, source⟩
  constructor
  · rintro ⟨found?, resulted⟩
    cases found with
    | error fault => simp [result] at resulted
    | ok found =>
        refine ⟨⟨found, rfl⟩, ?_⟩
        rintro fault rfl
        by_cases other : fault.kind = .pose
        · exact other
        · simp [result, other] at resulted
  · rintro ⟨⟨found, rfl⟩, missing⟩
    cases answer with
    | ok pose => exact ⟨some pose, rfl⟩
    | error fault => exact ⟨none, by simp [result, missing fault rfl]⟩

/-- An obeying sighting gives the pose that was looked up, if there is one. -/
theorem Obeys.result_eq {sighting : Sighting τ} (obeys : sighting.Obeys) :
    sighting.result = .ok sighting.answer.toOption := by
  rcases sighting with ⟨found, answer, source⟩
  rcases obeys with ⟨⟨found, rfl⟩, missing⟩
  cases answer with
  | ok pose => rfl
  | error fault => simp [result, missing fault rfl, Except.toOption]

end Sighting

namespace PoseDesk

/-- The desk after a sighting. -/
def saw (desk : PoseDesk τ) (sighting : Sighting τ) : PoseDesk τ :=
  ⟨sighting.source, desk.stats?.map (noteStamp sighting.found)⟩

theorem run_askSource {α : Type} (call : Call τ α) (desk : PoseDesk τ) :
    (ask call).run desk = ⟨(call desk.source).1, ⟨(call desk.source).2, desk.stats?⟩, []⟩ :=
  rfl

theorem run_noteFallback (desk : PoseDesk τ) :
    noteFallback.run desk =
      ⟨.ok (), ⟨desk.source, desk.stats?.map (noteStamp (.ok false))⟩, [fallbackRecord]⟩ :=
  rfl

/-- The stamp is chosen by the answer to the first question, if there is one. -/
theorem run_chooseStamp (poses : PoseSource τ) (origin target : String) (stamp : Value)
    (desk : PoseDesk τ) {found : Bool}
    (answered : (poses.canTransform target origin stamp desk.source).1 = .ok found) :
    (chooseStamp poses origin target stamp).run desk =
      ⟨.ok (stampFor (.ok found) stamp),
        ⟨(poses.canTransform target origin stamp desk.source).2,
          desk.stats?.map (noteStamp (.ok found))⟩,
        stampRecords (.ok found)⟩ := by
  cases found with
  | true =>
      have unchanged : noteStamp (.ok true) = id := rfl
      simp [chooseStamp, run_askSource, answered, stampFor, stampRecords, fellBack, unchanged]
  | false =>
      simp [chooseStamp, run_askSource, answered, stampFor, run_noteFallback, Except.map,
        stampRecords, fellBack]

/-- Without an answer to the first question, the second one is not asked. -/
theorem resolve_unanswered (poses : PoseSource τ) (origin target : String) (stamp : Value)
    (desk : PoseDesk τ) {fault : Fault}
    (failed : (poses.canTransform target origin stamp desk.source).1 = .error fault) :
    (resolve poses origin target stamp).run desk =
      ⟨.error fault,
        ⟨(poses.canTransform target origin stamp desk.source).2, desk.stats?⟩, []⟩ := by
  simp [resolve, chooseStamp, run_askSource, failed]

/-- What finding a pose comes to once the first question is answered. -/
theorem resolve_answered (poses : PoseSource τ) (origin target : String) (stamp : Value)
    (desk : PoseDesk τ) {found : Bool}
    (answered : (poses.sight target origin stamp desk.source).found = .ok found) :
    (resolve poses origin target stamp).run desk =
      ⟨(poses.sight target origin stamp desk.source).result,
        desk.saw (poses.sight target origin stamp desk.source),
        (poses.sight target origin stamp desk.source).records⟩ := by
  have chosen := run_chooseStamp poses origin target stamp desk answered
  simp only [PoseSource.sight] at answered
  simp only [PoseSource.sight, answered, resolve, Act.run_bind, chosen, Act.follow_ok,
    Act.run_attempt, run_askSource, Sighting.result, Sighting.records, saw]
  cases (poses.lookup target origin (stampFor (.ok found) stamp) _).1 with
  | ok pose => simp
  | error fault => by_cases missing : fault.kind = .pose <;> simp [missing, Except.map]

/-- Finding a pose returns exactly if its sighting obeys. -/
theorem resolve_isOk_iff (poses : PoseSource τ) (origin target : String) (stamp : Value)
    (desk : PoseDesk τ) :
    (∃ found?, ((resolve poses origin target stamp).run desk).result = .ok found?) ↔
      (poses.sight target origin stamp desk.source).Obeys := by
  cases answered : (poses.canTransform target origin stamp desk.source).1 with
  | ok found =>
      rw [resolve_answered poses origin target stamp desk answered]
      exact Sighting.result_isOk_iff _
  | error fault =>
      rw [resolve_unanswered poses origin target stamp desk answered]
      constructor
      · rintro ⟨found?, returned⟩
        cases returned
      · rintro ⟨⟨found, asked⟩, -⟩
        rw [PoseSource.sight, answered] at asked
        cases asked

end PoseDesk

end MapIngest.Ingest
