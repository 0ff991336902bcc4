import Mathlib.Data.List.Forall2
import MapIngest.Proofs.Run
import MapIngest.Proofs.Transcript

/-!
# Consulting a source of poses

Every request for a pose consults the source once: it asks whether there is a pose at the
stamp, and then looks up the pose at the stamp or the latest one.  What a request returns,
reports and counts is known from the two answers of its own consultation.  Nothing is kept
from one request to the next but the count of how often the latest pose stood in, so a run
of requests is a list of consultations, one for each request, in order.

A source may answer the same question differently from one time to the next.  In
particular it may say that there is a pose at a stamp, and fail to give it; that look-up
is reported and not tried again.
-/

namespace MapIngest.Ingest

open MapIngest.Geometry

variable {τ : Type}

/-- A request for the pose of one frame in another at a stamp. -/
structure PoseRequest where
  origin : String
  target : String
  stamp : Value

/-- Find the pose that is requested. -/
def PoseRequest.act (poses : PoseSource τ) (request : PoseRequest) :
    Act (PoseDesk τ) (Option (Pose Float)) :=
  PoseDesk.resolve poses request.origin request.target request.stamp

/-- A request with the two answers of the source. -/
structure Consultation where
  request : PoseRequest
  /-- Whether there is a pose at the stamp. -/
  found : Bool
  /-- The pose that was looked up, or why there is none. -/
  answer : Except Fault (Pose Float)

namespace Consultation

variable (consultation : Consultation)

/-- The stamp that is looked up. -/
def lookedUp : Value :=
  if consultation.found then consultation.request.stamp else latestStamp

/-- The two questions of a consultation with their answers, in the order of asking. -/
def exchanges : List PoseExchange :=
  [.canTransform consultation.request.target consultation.request.origin
      consultation.request.stamp (.ok consultation.found),
    .lookup consultation.request.target consultation.request.origin consultation.lookedUp
      consultation.answer]

/-- What is reported: that the latest pose stands in, and why there is no pose. -/
def records : List LogRecord :=
  (if consultation.found then [] else [PoseDesk.fallbackRecord]) ++
    match consultation.answer with
    | .ok _ => []
    | .error fault => [PoseDesk.failureRecord fault]

/-- How often the latest pose stood in. -/
def fallbacks (consultations : List Consultation) : Nat :=
  consultations.countP fun consultation => !consultation.found

end Consultation

theorem Consultation.fallbacks_cons (first : Consultation) (others : List Consultation) :
    fallbacks (first :: others) = fallbacks [first] + fallbacks others := by
  rw [← List.singleton_append, fallbacks, List.countP_append]
  rfl

/-- The counts with a number of further stand-ins of the latest pose. -/
def Stats.withFallbacks (count : Nat) (stats : Stats) : Stats :=
  { stats with latestFallbacks := stats.latestFallbacks + count }

@[simp]
theorem Stats.withFallbacks_zero (stats : Stats) : stats.withFallbacks 0 = stats := by
  simp [withFallbacks]

theorem Stats.map_withFallbacks (first second : Nat) (stats? : Option Stats) :
    (stats?.map (withFallbacks first)).map (withFallbacks second) =
      stats?.map (withFallbacks (first + second)) := by
  cases stats? <;> simp [withFallbacks, Int.add_assoc]

theorem noteStamp_eq_withFallbacks (found : Bool) (stats : Stats) :
    noteStamp (.ok found) stats = stats.withFallbacks (if found then 0 else 1) := by
  cases found with
  | false => rfl
  | true => exact (Stats.withFallbacks_zero stats).symm

/-- A visit of a request is a consultation of the recorded source. -/
structure Consults
    (visit : Visit (PoseDesk (Recorded τ PoseExchange)) PoseRequest (Option (Pose Float)))
    (consultation : Consultation) : Prop where
  request : visit.input = consultation.request
  result : visit.outcome.result = .ok consultation.answer.toOption
  records : visit.outcome.logs = consultation.records
  asked : visit.outcome.state.source.transcript =
    visit.before.source.transcript ++ consultation.exchanges
  counted : visit.outcome.state.stats? =
    visit.before.stats?.map (Stats.withFallbacks (Consultation.fallbacks [consultation]))

section Reliable

variable {poses : PoseSource τ} (reliable : poses.Reliable)

include reliable

/-- A request consults the source once, whatever the source was asked before. -/
theorem PoseRequest.consults (request : PoseRequest)
    (desk : PoseDesk (Recorded τ PoseExchange)) :
    ∃ consultation, Consults ⟨desk, request, (request.act poses.recorded).run desk⟩
      consultation := by
  rcases request with ⟨origin, target, stamp⟩
  have obeys := reliable.recorded.sight target origin stamp desk.source
  rcases obeys.found with ⟨found, known⟩
  have resolved := PoseDesk.resolve_answered poses.recorded origin target stamp desk known
  have asked := poses.sight_recorded target origin stamp desk.source
  generalize poses.recorded.sight target origin stamp desk.source = sighting
    at obeys known resolved asked
  rcases sighting with ⟨_, answer, source⟩
  obtain rfl := known
  have acted : (PoseRequest.act poses.recorded ⟨origin, target, stamp⟩).run desk = _ := resolved
  refine ⟨⟨⟨origin, target, stamp⟩, found, answer⟩, rfl, ?_, ?_, ?_, ?_⟩
  all_goals rw [acted]
  · exact obeys.result_eq
  · cases answer with
    | ok pose => cases found <;> rfl
    | error fault =>
        have missing : fault.kind = .pose := obeys.answer fault rfl
        simp only [Sighting.records, missing, if_true]
        cases found <;> rfl
  · refine asked.trans ?_
    cases found <;> rfl
  · refine congrArg (fun note => desk.stats?.map note) (funext fun stats => ?_)
    rw [noteStamp_eq_withFallbacks]
    cases found <;> rfl

/--
The requests of a run are consultations of the source, one for each request, in order.  The
source is asked nothing else, and what is counted in the end are the consultations in which
there was no pose at the stamp.
-/
theorem consulted_in_order (desk : PoseDesk (Recorded τ PoseExchange))
    (requests : List PoseRequest) :
    let act := PoseRequest.act poses.recorded
    let ended := Run.after act desk requests
    ∃ consultations : List Consultation,
      consultations.map Consultation.request = requests ∧
      List.Forall₂ Consults (Run.visits act desk requests) consultations ∧
      ended.source.transcript =
        desk.source.transcript ++ consultations.flatMap Consultation.exchanges ∧
      ended.stats? =
        desk.stats?.map (Stats.withFallbacks (Consultation.fallbacks consultations)) := by
  intro act ended
  induction requests generalizing desk with
  | nil =>
      refine ⟨[], rfl, .nil, (List.append_nil _).symm, ?_⟩
      have unchanged : Stats.withFallbacks 0 = id := funext Stats.withFallbacks_zero
      exact (congrArg (fun note => desk.stats?.map note) unchanged).trans Option.map_id_apply
        |>.symm
  | cons request rest ih =>
      rcases request.consults reliable desk with ⟨first, consults⟩
      rcases ih ((act request).run desk).state with ⟨others, requested, each, asked, counted⟩
      refine ⟨first :: others, ?_, .cons consults each, ?_, ?_⟩
      · rw [List.map_cons, requested, ← consults.request]
      · rw [List.flatMap_cons, ← List.append_assoc, ← consults.asked]
        exact asked
      · rw [Consultation.fallbacks_cons, ← Stats.map_withFallbacks, ← consults.counted]
        exact counted

end Reliable

/-- A source that answers from a script: whether there is a pose, and the pose if there is one. -/
def PoseSource.scripted : PoseSource (List (Bool × Option (Pose Float))) where
  canTransform _ _ _ script := (.ok (script.head?.any Prod.fst), script)
  lookup target origin _ script :=
    match script with
    | (_, some pose) :: rest => (.ok pose, rest)
    | (_, none) :: rest => (.error (.noPose target origin "not connected"), rest)
    | [] => (.error (.noPose target origin "not connected"), [])

theorem PoseSource.scripted_reliable : PoseSource.scripted.Reliable where
  canTransform _ _ _ _ := ⟨_, rfl⟩
  lookup target origin stamp script fault failed := by
    rcases script with _ | ⟨⟨_, _ | pose⟩, rest⟩ <;> cases failed <;> rfl

/-- Six questions for three requests, although the first look-up fails. -/
theorem failed_lookup_not_repeated :
    let start : PoseDesk (Recorded _ PoseExchange) :=
      ⟨⟨[(true, none), (false, some Pose.identity), (true, some Pose.identity)], []⟩, none⟩
    let requests := List.replicate 3 (PoseRequest.mk "camera" "world" (.int 12))
    PoseSource.scripted.Reliable ∧
      (Run.after (PoseRequest.act PoseSource.scripted.recorded) start
        requests).source.transcript.length = 6 := by
  intro start requests
  refine ⟨PoseSource.scripted_reliable, ?_⟩
  rcases consulted_in_order PoseSource.scripted_reliable start requests with
    ⟨consultations, requested, -, asked, -⟩
  have three : consultations.length = 3 := by
    rw [← List.length_map Consultation.request, requested]
    rfl
  rw [asked, List.length_append, List.length_flatMap]
  have two : consultations.map (fun consultation => consultation.exchanges.length) =
      consultations.map fun _ => 2 := rfl
  rw [two, List.map_const', List.sum_replicate_nat, three]
  rfl

end MapIngest.Ingest
