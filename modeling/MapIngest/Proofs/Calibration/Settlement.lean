import Mathlib.Data.List.Induction
import MapIngest.Proofs.Calibration.Event

/-!
# The first enabling event settles the matrix

A calibration starts open.  It stays open as long as no event is enabling, the
first enabling event settles the matrix and the working size, and nothing that
happens later changes either of them.  Numbers of the configuration are taken
over exactly if they are that first enabling event.

The invariant links a calibration to the events that led to it: it holds the
latest record of each camera, and it is open exactly if these events were idle.
-/

namespace MapIngest.Calibration

open MapIngest.Geometry

/-! ## Idle sequences -/

theorem idle_nil : Idle [] := by
  intro seen event rest equal
  simp at equal

theorem idle_concat_iff (events : List Event) (event : Event) :
    Idle (events ++ [event]) ↔ Idle events ∧ ¬ event.Enabling events := by
  constructor
  · intro idle
    refine ⟨?_, idle events event [] rfl⟩
    intro seen earlier rest equal
    exact idle seen earlier (rest ++ [event]) (by simp [equal])
  · rintro ⟨idle, last⟩ seen earlier rest equal
    rcases List.eq_nil_or_concat rest with rfl | ⟨middle, final, rfl⟩
    · rcases List.append_singleton_inj.mp equal with ⟨rfl, rfl⟩
      exact last
    · rw [List.concat_eq_append, ← List.cons_append, ← List.append_assoc] at equal
      rcases List.append_singleton_inj.mp equal with ⟨rfl, -⟩
      exact idle seen earlier middle rfl

/-! ## Latest records -/

theorem latestLeft_concat (events : List Event) (event : Event) :
    latestLeft (events ++ [event]) = event.left?.or (latestLeft events) := by
  cases event <;> simp [latestLeft, Event.left?]

theorem latestRight_concat (events : List Event) (event : Event) :
    latestRight (events ++ [event]) = event.right?.or (latestRight events) := by
  cases event <;> simp [latestRight, Event.right?]

/-! ## The invariant -/

/-- A calibration of a configured size as a sequence of events has left it. -/
structure Tracks (size : Int × Int) (events : List Event) (calibration : Calibration) :
    Prop where
  configuredSize : calibration.configuredSize = size
  left : calibration.left? = latestLeft events
  right : calibration.right? = latestRight events
  open_iff : calibration.readiness.isReady = false ↔ Idle events

/-- A calibration before anything has happened to it. -/
def fresh (size : Int × Int) : Calibration :=
  { configuredSize := size }

theorem tracks_fresh (size : Int × Int) : Tracks size [] (fresh size) where
  configuredSize := rfl
  left := rfl
  right := rfl
  open_iff := iff_of_true rfl idle_nil

/-- The records of the left camera give their sizes as integers. -/
def Sized (events : List Event) : Prop :=
  ∀ camera, Event.left camera ∈ events →
    ∃ width height, camera.width = .int width ∧ camera.height = .int height

theorem Tracks.remember_left {size : Int × Int} {seen : List Event}
    {calibration : Calibration} (tracks : Tracks size seen calibration) (event : Event) :
    (event.remember calibration).left? = latestLeft (seen ++ [event]) := by
  rw [latestLeft_concat, ← tracks.left]
  cases event <;> rfl

theorem Tracks.remember_right {size : Int × Int} {seen : List Event}
    {calibration : Calibration} (tracks : Tracks size seen calibration) (event : Event) :
    (event.remember calibration).right? = latestRight (seen ++ [event]) := by
  rw [latestRight_concat, ← tracks.right]
  cases event <;> rfl

/-- A record that is stored as the latest one gives its size, if the events are sized. -/
theorem Sized.latestLeft {events : List Event} (sized : Sized events) {camera : Camera}
    (latest : latestLeft events = some camera) :
    ∃ width height, camera.width = .int width ∧ camera.height = .int height := by
  have member : camera ∈ events.filterMap Event.left? := List.mem_of_getLast? latest
  rcases List.mem_filterMap.mp member with ⟨event, inside, brought⟩
  cases event with
  | configure numbers? => cases brought
  | right camera => cases brought
  | left brings =>
      cases brought
      exact sized camera inside

/-! ## One event -/

/-- Once the matrix is settled, an event only leaves its record. -/
theorem act_settled (event : Event) (calibration : Calibration)
    (ready : calibration.readiness.isReady = true) :
    ∃ logs, event.act.run calibration =
      ⟨.ok (event.reply false), event.remember calibration, logs⟩ := by
  cases event with
  | configure numbers? =>
      by_cases offer : ∃ numbers, numbers? = some numbers ∧ numbers.length = 16
      · rcases offer with ⟨numbers, rfl, length⟩
        rcases run_configure_matrix numbers length with ⟨matrix, -, taken⟩
        exact ⟨[alreadySettled calibration.readiness], by
          simp [Event.act, taken, settle_ready matrix calibration ready, Except.map,
            Event.reply, Event.remember]⟩
      · obtain ⟨logs, refused⟩ := run_configure_refused numbers?
          (fun numbers given length => offer ⟨numbers, given, length⟩) calibration
        exact ⟨logs, by simp [Event.act, refused, Except.map, Event.reply, Event.remember]⟩
  | left camera =>
      have kept := deriveIfOpen_ready (Event.remember calibration (.left camera)) (by simpa)
      exact ⟨[], by rw [act_record rfl, kept]; rfl⟩
  | right camera =>
      have kept := deriveIfOpen_ready (Event.remember calibration (.right camera)) (by simpa)
      exact ⟨[], by rw [act_record rfl, kept]; rfl⟩

/-- An event that is not enabling only leaves its record. -/
theorem Tracks.act_idle {size : Int × Int} {seen : List Event} {calibration : Calibration}
    (tracks : Tracks size seen calibration)
    (unsettled : calibration.readiness = .uninitialized) (event : Event)
    (idle : ¬ event.Enabling seen) :
    ∃ logs, event.act.run calibration =
      ⟨.ok (event.reply false), event.remember calibration, logs⟩ := by
  -- A record stays without effect because no pair is known after it.
  have unpaired : event.isRecord = true → ¬ PairKnown (seen ++ [event]) := by
    intro record known
    cases event with
    | configure numbers? => cases record
    | left camera => exact idle known
    | right camera => exact idle known
  cases record : event.isRecord with
  | false =>
      cases event with
      | left camera => cases record
      | right camera => cases record
      | configure numbers? =>
          obtain ⟨logs, refused⟩ := run_configure_refused numbers?
            (fun numbers given length => idle (by subst given; exact length)) calibration
          exact ⟨logs, by
            simp [Event.act, refused, Except.map, Event.reply, Event.remember]⟩
  | true =>
      have kept := deriveIfOpen_unpaired (event.remember calibration) (by simpa) (by
        intro left right known partner apart
        rw [tracks.remember_left] at known
        rw [tracks.remember_right] at partner
        exact unpaired record ⟨left, right, known, partner, apart⟩)
      rcases kept with ⟨logs, kept⟩
      refine ⟨logs, ?_⟩
      rw [act_record record, kept, Event.reply_record record]
      rfl

/-- The first enabling event settles the matrix and the working size. -/
theorem Tracks.act_enabling {size : Int × Int} {seen : List Event}
    {calibration : Calibration} (tracks : Tracks size seen calibration)
    (unsettled : calibration.readiness = .uninitialized) (event : Event)
    (enabling : event.Enabling seen) (sized : Sized (seen ++ [event])) :
    ∃ readiness logs, readiness.isReady = true ∧ Settles size seen event readiness ∧
      event.act.run calibration =
        ⟨.ok (event.reply true), { event.remember calibration with readiness := readiness },
          logs⟩ := by
  cases record : event.isRecord with
  | false =>
      cases event with
      | left camera => cases record
      | right camera => cases record
      | configure numbers? =>
          cases numbers? with
          | none => exact enabling.elim
          | some numbers =>
              rcases run_configure_matrix numbers enabling with ⟨matrix, entries, taken⟩
              refine ⟨.configured ⟨matrix, size⟩, [settledByConfiguration], rfl,
                .configured entries, ?_⟩
              have closed : calibration.readiness.isReady = false := by rw [unsettled]; rfl
              simp [Event.act, taken, settle_open matrix calibration closed, Except.map,
                Event.reply, Event.remember, tracks.configuredSize]
  | true =>
      have pair : PairKnown (seen ++ [event]) := by
        cases event with
        | configure numbers? => cases record
        | left camera => exact enabling
        | right camera => exact enabling
      rcases pair with ⟨left, right, known, partner, apart⟩
      rcases (reprojectionOf_isOk_iff left right).mpr apart with ⟨matrix, found⟩
      rcases sized.latestLeft known with ⟨width, height, wide, high⟩
      have extent : left.size = .ok (width, height) := by
        rw [Camera.size, wide, high]
        rfl
      have derived := deriveIfOpen_paired (event.remember calibration) (by simpa)
        (by rw [tracks.remember_left, known]) (by rw [tracks.remember_right, partner])
        found extent
      refine ⟨.derived ⟨matrix, (width, height)⟩,
        [settledByCameras left right (width, height)], rfl,
        .derived record known partner found ⟨wide, high⟩, ?_⟩
      rw [act_record record, derived, Event.reply_record record]
      rfl

/-! ## Whole runs -/

/-- One event keeps the invariant. -/
theorem Tracks.act {size : Int × Int} {seen : List Event} {calibration : Calibration}
    (tracks : Tracks size seen calibration) (event : Event)
    (sized : Sized (seen ++ [event])) :
    Tracks size (seen ++ [event]) (event.act.run calibration).state := by
  -- In every case the records and the size are known; what is left is when it is open.
  have remembered : ∀ next : Calibration,
      next.configuredSize = calibration.configuredSize →
      next.left? = (event.remember calibration).left? →
      next.right? = (event.remember calibration).right? →
      (next.readiness.isReady = false ↔ Idle (seen ++ [event])) →
      Tracks size (seen ++ [event]) next := by
    intro next sameSize sameLeft sameRight open_iff
    exact {
      configuredSize := sameSize.trans tracks.configuredSize
      left := sameLeft.trans (tracks.remember_left event)
      right := sameRight.trans (tracks.remember_right event)
      open_iff := open_iff }
  cases ready : calibration.readiness.isReady with
  | true =>
      rcases act_settled event calibration ready with ⟨logs, kept⟩
      rw [kept]
      refine remembered _ (event.remember_configuredSize calibration) rfl rfl ?_
      rw [Event.remember_readiness, ready, idle_concat_iff, ← tracks.open_iff, ready]
      simp
  | false =>
      have unsettled := (isReady_eq_false_iff _).mp ready
      have idle := tracks.open_iff.mp ready
      by_cases enabling : event.Enabling seen
      · rcases tracks.act_enabling unsettled event enabling sized
          with ⟨readiness, logs, settled, -, taken⟩
        rw [taken]
        refine remembered _ (event.remember_configuredSize calibration) rfl rfl ?_
        rw [settled, idle_concat_iff]
        simp [enabling]
      · rcases tracks.act_idle unsettled event enabling with ⟨logs, kept⟩
        rw [kept]
        refine remembered _ (event.remember_configuredSize calibration) rfl rfl ?_
        rw [Event.remember_readiness, ready, idle_concat_iff]
        simp [idle, enabling]

theorem Sized.of_append {first second : List Event} (sized : Sized (first ++ second)) :
    Sized first := by
  intro camera member
  exact sized camera (List.mem_append_left second member)

/-- The invariant holds after every sequence of events. -/
theorem tracks_after (size : Int × Int) (events : List Event) (sized : Sized events) :
    Tracks size events (Run.after Event.act (fresh size) events) := by
  refine Run.after_induction Event.act
    (fun seen calibration => Sized seen → Tracks size seen calibration)
    (fun _ => tracks_fresh size) ?_ events sized
  intro seen calibration event tracks sized
  exact (tracks sized.of_append).act event sized

/-- What is settled stays settled, whatever happens. -/
theorem readiness_after (calibration : Calibration)
    (ready : calibration.readiness.isReady = true) (events : List Event) :
    (Run.after Event.act calibration events).readiness = calibration.readiness := by
  induction events generalizing calibration with
  | nil => rfl
  | cons event rest ih =>
      rcases act_settled event calibration ready with ⟨logs, kept⟩
      rw [Run.after_cons, kept, ih _ (by simpa), Event.remember_readiness]

/-- A sequence of events is idle, or one of them is the first that is enabling. -/
theorem idle_or_first (events : List Event) :
    Idle events ∨ ∃ seen event rest, events = seen ++ event :: rest ∧ Idle seen ∧
      event.Enabling seen := by
  induction events using List.reverseRecOn with
  | nil => exact Or.inl idle_nil
  | append_singleton events last ih =>
      rcases ih with idle | ⟨seen, event, rest, rfl, idle, enabling⟩
      · by_cases enabling : last.Enabling events
        · exact Or.inr ⟨events, last, [], rfl, idle, enabling⟩
        · exact Or.inl ((idle_concat_iff events last).mpr ⟨idle, enabling⟩)
      · exact Or.inr ⟨seen, event, rest ++ [last], by simp, idle, enabling⟩

/-- An event is told that it settled the matrix exactly if it is the first enabling one. -/
theorem Tracks.reply {size : Int × Int} {seen : List Event} {calibration : Calibration}
    (tracks : Tracks size seen calibration) (event : Event)
    (sized : Sized (seen ++ [event])) :
    ∃ settled, (event.act.run calibration).result = .ok (event.reply settled) ∧
      (settled = true ↔ Idle seen ∧ event.Enabling seen) := by
  cases ready : calibration.readiness.isReady with
  | true =>
      rcases act_settled event calibration ready with ⟨logs, kept⟩
      refine ⟨false, by rw [kept], ?_⟩
      simp [← tracks.open_iff, ready]
  | false =>
      have unsettled := (isReady_eq_false_iff _).mp ready
      have idle := tracks.open_iff.mp ready
      by_cases enabling : event.Enabling seen
      · rcases tracks.act_enabling unsettled event enabling sized
          with ⟨readiness, logs, -, -, taken⟩
        exact ⟨true, by rw [taken], by simp [idle, enabling]⟩
      · rcases tracks.act_idle unsettled event enabling with ⟨logs, kept⟩
        exact ⟨false, by rw [kept], by simp [enabling]⟩

/--
A run without an enabling event leaves a calibration open.  In every other run
the first enabling event settles the matrix and the size, and they are the same
from then on.  No event fails, and numbers of the configuration are reported as
taken over exactly if they are the first enabling event.
-/
theorem first_enabling_event_settles (size : Int × Int) (events : List Event)
    (sized : Sized events) :
    ((Idle events ∧
        (Run.after Event.act (fresh size) events).readiness = .uninitialized) ∨
      ∃ seen event rest readiness,
        events = seen ++ event :: rest ∧ Idle seen ∧ event.Enabling seen ∧
        Settles size seen event readiness ∧
        ∀ middle, middle <+: rest →
          (Run.after Event.act (fresh size) (seen ++ event :: middle)).readiness =
            readiness) ∧
    ∀ seen event rest, events = seen ++ event :: rest →
      ∃ settled,
        (event.act.run (Run.after Event.act (fresh size) seen)).result =
          .ok (event.reply settled) ∧
        (settled = true ↔ Idle seen ∧ event.Enabling seen) := by
  -- The invariant holds before every event, not only after the last one.
  have upTo : ∀ seen event rest, events = seen ++ event :: rest →
      Tracks size seen (Run.after Event.act (fresh size) seen) ∧
        Sized (seen ++ [event]) := by
    intro seen event rest equal
    have split : events = (seen ++ [event]) ++ rest := by simp [equal]
    rw [split] at sized
    exact ⟨tracks_after size seen sized.of_append.of_append, sized.of_append⟩
  constructor
  · rcases idle_or_first events with idle | ⟨seen, event, rest, equal, idle, enabling⟩
    · left
      exact ⟨idle, (isReady_eq_false_iff _).mp
        ((tracks_after size events sized).open_iff.mpr idle)⟩
    · right
      rcases upTo seen event rest equal with ⟨tracks, sizedSeen⟩
      have unsettled := (isReady_eq_false_iff _).mp (tracks.open_iff.mpr idle)
      rcases tracks.act_enabling unsettled event enabling sizedSeen
        with ⟨readiness, logs, ready, settles, taken⟩
      refine ⟨seen, event, rest, readiness, equal, idle, enabling, settles, ?_⟩
      intro middle _
      rw [Run.after_append, Run.after_cons, taken, readiness_after _ ready]
  · intro seen event rest equal
    rcases upTo seen event rest equal with ⟨tracks, sizedSeen⟩
    exact tracks.reply event sizedSeen

/-- A camera with an image size. -/
def plainCamera : Camera :=
  ⟨"camera", .int 752, .int 480, default, default⟩

/-- Sixteen numbers that arrive between two records are reported as taken over. -/
theorem sixteen_numbers_between_records :
    Sized [.left plainCamera, .configure (some (List.replicate 16 1.0)),
      .right plainCamera] ∧
    ((Event.configure (some (List.replicate 16 1.0))).act.run
      (Run.after Event.act (fresh (752, 480)) [.left plainCamera])).result =
      .ok (some true) := by
  have sized : Sized [.left plainCamera, .configure (some (List.replicate 16 1.0)),
      .right plainCamera] := by
    intro camera member
    simp only [List.mem_cons, Event.left.injEq, List.not_mem_nil, reduceCtorEq,
      or_false] at member
    subst member
    exact ⟨752, 480, rfl, rfl⟩
  have alone : ¬ (Event.left plainCamera).Enabling [] := by
    rintro ⟨left, right, -, partner, -⟩
    cases partner
  have idle : Idle [.left plainCamera] := (idle_concat_iff [] _).mpr ⟨idle_nil, alone⟩
  rcases (first_enabling_event_settles (752, 480) _ sized).2
    [.left plainCamera] (.configure (some (List.replicate 16 1.0))) [.right plainCamera] rfl
    with ⟨settled, told, first⟩
  obtain rfl : settled = true := first.mpr ⟨idle, List.length_replicate⟩
  exact ⟨sized, told⟩

end MapIngest.Calibration
