import MapIngest.Node.Startup
import MapIngest.Proofs.Act
import MapIngest.Proofs.Coordinator.Entry
import MapIngest.Proofs.Decimal.Inverse
import MapIngest.Proofs.Engine.Loading
import MapIngest.Rehearsal.Clockwork

/-!
# The timers of a node

A node creates its timers last.  It asks the clockwork for them in turn, and the first
that the clockwork refuses ends the start: then all but the last of those that were asked
for have been made.  A start that returns has made all the timers of its parameters, and
one that fails earlier has asked for none.

A timer is usable if its period is finite and positive.  The period of status reports
is a parameter, and that of publishing is the inverse of one.  The start makes no check
of either, beyond the comparison with zero that disables the timer, and of the two
comparisons the one for publishing also lets through what is not a number.  So the
timers are usable exactly if the rate is a number, and neither period is infinite or
zero: the parameters keep time.
-/

namespace MapIngest

open Node Decimal

variable {μ κ ε β ω : Type}

/-- The timer that an endpoint is, if it is one. -/
def Node.Endpoint.timer? : Endpoint → Option Timer
  | .timer made => some made
  | _ => none

/-- A timer with a finite and positive period. -/
structure Node.Timer.Usable (timer : Timer) : Prop where
  finite : timer.period.isFinite = true
  positive : 0 < timer.period

/-- The clockwork makes the timer. -/
def Node.Clockwork.Makes (clockwork : Clockwork) (timer : Timer) : Prop :=
  clockwork.install timer = .ok ()

theorem Node.Clockwork.Makes.not_refuses {clockwork : Clockwork} {timer : Timer}
    (makes : clockwork.Makes timer) (fault : Fault) :
    clockwork.install timer ≠ .error fault := by
  intro refuses
  cases makes.symm.trans refuses

/-- The timers created so far. -/
def Assembly.timers (assembly : Assembly ε) : List Timer :=
  assembly.endpoints.filterMap Endpoint.timer?

/-- Parameters that ask for usable timers only. -/
structure Config.ManagerParams.KeepsTime (params : Config.ManagerParams) : Prop where
  number : params.mapPublishFrequency.isNaN = false
  /-- A rate above this bound has an inverse that does not overflow. -/
  rate : 0 < params.mapPublishFrequency →
    params.mapPublishFrequency.isFinite = true ∧ 1 < overflow * exact params.mapPublishFrequency
  period : 0 < params.statusPeriod → params.statusPeriod.isFinite = true

namespace MapNode

/-! ## The timers that parameters ask for -/

section Parameters

variable (params : Config.ManagerParams)

/-- There is a timer for publishing if the rate is positive, or is not a number. -/
theorem publishingTimer?_eq_some_iff (timer : Timer) :
    publishingTimer? params = some timer ↔
      (0 < params.mapPublishFrequency ∨ params.mapPublishFrequency.isNaN = true) ∧
        timer = ⟨.publishing, 1 / params.mapPublishFrequency⟩ := by
  have zero : (0.0 : Float) = 0 := rfl
  have one : (1.0 : Float) = 1 := rfl
  rw [← not_le_zero_iff]
  simp [publishingTimer?, Config.ManagerParams.publishPeriod?, zero, one, eq_comm]

/-- There is a timer for status reports if their period is positive. -/
theorem statusTimer?_eq_some_iff (timer : Timer) :
    statusTimer? params = some timer ↔
      0 < params.statusPeriod ∧ timer = ⟨.status, params.statusPeriod⟩ := by
  have zero : (0.0 : Float) = 0 := rfl
  simp [statusTimer?, zero, eq_comm]

theorem mem_timersOf_iff (timer : Timer) :
    timer ∈ timersOf params ↔
      publishingTimer? params = some timer ∨ statusTimer? params = some timer := by
  simp [timersOf]

/-- There is at most one timer for each task. -/
theorem tasks_sublist :
    ((timersOf params).map Timer.task).Sublist [.publishing, .status] := by
  rw [timersOf, publishingTimer?, statusTimer?]
  cases params.publishPeriod? <;> split <;> simp

/-- The timer for publishing is usable if the rate is finite and its inverse is, too. -/
theorem inverse_usable_iff {rate : Float} (asked : 0 < rate ∨ rate.isNaN = true) :
    Timer.Usable ⟨.publishing, 1 / rate⟩ ↔
      rate.isFinite = true ∧ 1 < overflow * exact rate := by
  rw [← inverse_finite_pos_iff ((not_le_zero_iff rate).mpr asked)]
  exact ⟨fun usable => ⟨usable.finite, usable.positive⟩, fun both => ⟨both.1, both.2⟩⟩

/-- The timers that parameters ask for are usable exactly if the parameters keep time. -/
theorem timersOf_usable_iff :
    (∀ timer ∈ timersOf params, timer.Usable) ↔ params.KeepsTime := by
  simp only [mem_timersOf_iff]
  constructor
  · intro usable
    -- A rate that is not a number asks for a timer, too; its inverse is no number either.
    have publishing : ∀ asked : 0 < params.mapPublishFrequency ∨
        params.mapPublishFrequency.isNaN = true, _ := fun asked =>
      (inverse_usable_iff asked).mp
        (usable _ (.inl ((publishingTimer?_eq_some_iff params _).mpr ⟨asked, rfl⟩)))
    refine ⟨?_, fun positive => publishing (.inl positive), fun positive =>
      (usable _ (.inr ((statusTimer?_eq_some_iff params _).mpr ⟨positive, rfl⟩))).finite⟩
    rw [Bool.eq_false_iff]
    intro strange
    have number := isNaN_of_isFinite (publishing (.inr strange)).1
    rw [strange] at number
    cases number
  · rintro ⟨number, rate, status⟩ timer (publishing | reporting)
    · rcases (publishingTimer?_eq_some_iff params timer).mp publishing with ⟨asked, rfl⟩
      refine (inverse_usable_iff asked).mpr (rate (asked.resolve_right ?_))
      rw [number]
      exact Bool.false_ne_true
    · rcases (statusTimer?_eq_some_iff params timer).mp reporting with ⟨positive, rfl⟩
      exact ⟨status positive, positive⟩

end Parameters

/-! ## Asking for timers in turn -/

/-- How a list of timers is asked for in turn: which are asked for, which of them are made. -/
inductive Turns (clockwork : Clockwork) :
    List Timer → (asked made : List Timer) → Except Fault Unit → Prop
  | done : Turns clockwork [] [] [] (.ok ())
  | made {timer : Timer} {later asked made : List Timer} {result : Except Fault Unit}
      (makes : clockwork.Makes timer) (rest : Turns clockwork later asked made result) :
      Turns clockwork (timer :: later) (timer :: asked) (timer :: made) result
  | refused {timer : Timer} {later : List Timer} {fault : Fault}
      (refuses : clockwork.install timer = .error fault) :
      Turns clockwork (timer :: later) [timer] [] (.error fault)

namespace Turns

variable {clockwork : Clockwork} {timers asked made : List Timer} {result : Except Fault Unit}

theorem sublist (turns : Turns clockwork timers asked made result) : asked.Sublist timers := by
  induction turns with
  | done => exact .slnil
  | made makes rest ih => exact ih.cons_cons _
  | refused refuses => simp

theorem made_prefix (turns : Turns clockwork timers asked made result) : made <+: asked := by
  induction turns with
  | done => exact List.nil_prefix
  | made makes rest ih => exact List.cons_prefix_cons.mpr ⟨rfl, ih⟩
  | refused refuses => exact List.nil_prefix

/-- Of the timers asked for, those are made that the clockwork makes. -/
theorem mem_made_iff (turns : Turns clockwork timers asked made result) {timer : Timer}
    (member : timer ∈ asked) : timer ∈ made ↔ clockwork.Makes timer := by
  induction turns with
  | done => cases member
  | made makes rest ih =>
      rcases List.mem_cons.mp member with rfl | later
      · simp [makes]
      · refine ⟨fun listed => ?_, fun makes => List.mem_cons_of_mem _ ((ih later).mpr makes)⟩
        rcases List.mem_cons.mp listed with rfl | listed
        · exact makes
        · exact (ih later).mp listed
  | refused refuses =>
      obtain rfl := List.mem_singleton.mp member
      simp [Clockwork.Makes, refuses]

/-- A refusal is the result. -/
theorem result_of_refused (turns : Turns clockwork timers asked made result) {timer : Timer}
    (member : timer ∈ asked) {fault : Fault} (refuses : clockwork.install timer = .error fault) :
    result = .error fault := by
  induction turns with
  | done => cases member
  | made makes rest ih =>
      rcases List.mem_cons.mp member with rfl | later
      · exact (makes.not_refuses fault refuses).elim
      · exact ih later
  | refused also =>
      obtain rfl := List.mem_singleton.mp member
      rw [refuses] at also
      cases also
      rfl

/-- Either all timers are asked for and made, or one of those asked for is refused. -/
theorem all_or_refused (turns : Turns clockwork timers asked made result) :
    (result = .ok () ∧ asked = timers ∧ made = timers ∧ ∀ timer ∈ asked, clockwork.Makes timer) ∨
    ∃ fault, result = .error fault ∧ ∃ timer ∈ asked, clockwork.install timer = .error fault := by
  induction turns with
  | done => exact .inl ⟨rfl, rfl, rfl, by simp⟩
  | made makes rest ih =>
      rcases ih with ⟨returned, rfl, rfl, all⟩ | ⟨fault, failed, timer, member, refuses⟩
      · exact .inl ⟨returned, rfl, rfl, List.forall_mem_cons.mpr ⟨makes, all⟩⟩
      · exact .inr ⟨fault, failed, timer, List.mem_cons_of_mem _ member, refuses⟩
  | refused refuses => exact .inr ⟨_, rfl, _, List.mem_singleton_self _, refuses⟩

/-- Of two optional timers the second is asked for if the first is not refused. -/
theorem mem_asked_iff {first? second? : Option Timer}
    (turns : Turns clockwork (first?.toList ++ second?.toList) asked made result)
    (timer : Timer) :
    timer ∈ asked ↔ first? = some timer ∨
      second? = some timer ∧ ∀ earlier, first? = some earlier → clockwork.Makes earlier := by
  cases first? with
  | none =>
      cases second? with
      | none => cases turns with | done => simp
      | some second =>
          cases turns with
          | made makes rest => cases rest with | done => simp [eq_comm]
          | refused refuses => simp [eq_comm]
  | some first =>
      cases turns with
      | made makes rest =>
          cases second? with
          | none => cases rest with | done => simp [eq_comm]
          | some second =>
              cases rest with
              | made also rest => cases rest with | done => simp [makes, eq_comm]
              | refused refuses => simp [makes, eq_comm]
      | refused refuses => simp [Clockwork.Makes, refuses, eq_comm]

end Turns

theorem run_createTimer (clockwork : Clockwork) (timer : Timer) (assembly : Assembly ε) :
    (createTimer clockwork timer).run assembly =
      match clockwork.install timer with
      | .ok _ => ⟨.ok (), ⟨assembly.engine?, assembly.endpoints ++ [.timer timer],
          assembly.requested ++ [timer]⟩, []⟩
      | .error fault => ⟨.error fault,
          ⟨assembly.engine?, assembly.endpoints, assembly.requested ++ [timer]⟩, []⟩ := by
  cases installed : clockwork.install timer <;> simp [createTimer, create, installed]

/-- The timers of a list are asked for in turn. -/
theorem forM_createTimer (clockwork : Clockwork) (timers : List Timer) (assembly : Assembly ε) :
    ∃ asked made result, Turns clockwork timers asked made result ∧
      (forM timers (createTimer clockwork) : Act (Assembly ε) PUnit).run assembly =
        ⟨result, ⟨assembly.engine?, assembly.endpoints ++ made.map .timer,
          assembly.requested ++ asked⟩, []⟩ := by
  induction timers generalizing assembly with
  | nil => exact ⟨[], [], .ok (), .done, by simp⟩
  | cons timer later ih =>
      rw [List.forM_cons, Act.run_bind, run_createTimer]
      cases installed : clockwork.install timer with
      | error fault => exact ⟨[timer], [], .error fault, .refused installed, by simp⟩
      | ok _ =>
          rcases ih ⟨assembly.engine?, assembly.endpoints ++ [.timer timer],
            assembly.requested ++ [timer]⟩ with ⟨asked, made, result, turns, taken⟩
          exact ⟨timer :: asked, timer :: made, result, .made installed turns, by simp [taken]⟩

section Parameters

variable {clockwork : Clockwork} {params : Config.ManagerParams} {asked made : List Timer}
  {result : Except Fault Unit}

theorem publishing_asked_iff (turns : Turns clockwork (timersOf params) asked made result)
    (period : Float) :
    ⟨.publishing, period⟩ ∈ asked ↔
      (0 < params.mapPublishFrequency ∨ params.mapPublishFrequency.isNaN = true) ∧
        period = 1 / params.mapPublishFrequency := by
  rw [turns.mem_asked_iff, publishingTimer?_eq_some_iff, statusTimer?_eq_some_iff]
  simp

theorem status_asked_iff (turns : Turns clockwork (timersOf params) asked made result)
    (period : Float) :
    ⟨.status, period⟩ ∈ asked ↔
      0 < params.statusPeriod ∧ period = params.statusPeriod ∧
        ∀ earlier, ⟨.publishing, earlier⟩ ∈ asked → clockwork.Makes ⟨.publishing, earlier⟩ := by
  simp only [publishing_asked_iff turns]
  rw [turns.mem_asked_iff]
  simp only [publishingTimer?_eq_some_iff, statusTimer?_eq_some_iff]
  simp [and_assoc]

end Parameters

/-! ## The timers that a start asks for -/

/-- What a start needs before it comes to the timers. -/
structure Ready (host : PluginHost μ κ ε) (engine : MapEngine ε) (params : Config.ManagerParams)
    (outbox : Outbox ω) : Prop where
  named : params.mapEngine ≠ ""
  launched : ∃ loaded,
    ((host.launch engine params.mapEngine params.engine).run none).result = .ok loaded
  timed : ∃ startTime, outbox.clock.reading = .ok startTime

/-- Accepted parameters are read back and listed. -/
theorem run_readParameters {held : Mapping} {params : Config.ManagerParams}
    (accepted : (Config.validate held).1 = .ok params) (assembly : Assembly ε) :
    (readParameters held).run assembly =
      ⟨.ok params, assembly, (Config.validate held).2 ++ manifest params⟩ := by
  rcases validated : Config.validate held with ⟨outcome, logs⟩
  rw [validated] at accepted
  cases accepted
  simp [readParameters, validated, Act.run_forM_log, Except.map]

theorem setUp_returns (params : Config.ManagerParams) (loaded : ε) (buffer : β)
    (outbox : Outbox ω) (assembly : Assembly ε) :
    ∃ coordinator logs,
      (setUp params loaded buffer outbox).run assembly = ⟨.ok coordinator, assembly, logs⟩ := by
  rcases Coordinator.start_returns params loaded buffer outbox with ⟨calibration, logs, ready⟩
  refine ⟨{ Coordinator.initial params loaded buffer outbox with calibration := calibration },
    logs, ?_⟩
  simp only [setUp, Act.run, ready, Except.map]

/-- A node without timers is equipped with those of its parameters. -/
theorem equip_turns (clockwork : Clockwork) (params : Config.ManagerParams)
    (coordinator : Coordinator ε β (Outbox ω)) (startTime : Ingest.ClockReading)
    {assembly : Assembly ε} (timeless : assembly.timers = []) (fresh : assembly.requested = []) :
    let outcome := (equip clockwork params coordinator startTime).run assembly
    ∃ result,
      Turns clockwork (timersOf params) outcome.state.requested outcome.state.timers result ∧
      outcome.result =
        result.map fun _ => ⟨params, coordinator, timersOf params, startTime⟩ := by
  intro outcome
  rcases forM_createTimer clockwork (timersOf params) assembly
    with ⟨asked, made, result, turns, taken⟩
  have left : outcome.state =
      ⟨assembly.engine?, assembly.endpoints ++ made.map .timer, assembly.requested ++ asked⟩ := by
    cases result <;> simp [outcome, equip, taken]
  have created : (made.map Endpoint.timer).filterMap Endpoint.timer? = made := by
    simp [List.filterMap_map, Function.comp_def, Endpoint.timer?]
  have listed : outcome.state.timers = made := by
    rw [left, Assembly.timers, List.filterMap_append, created]
    exact congrArg (· ++ made) timeless
  refine ⟨result, ?_, ?_⟩
  · rw [listed, left, fresh, List.nil_append]
    exact turns
  · cases result <;> simp [outcome, equip, taken, Except.map]

/-- A launch creates no endpoint, and gives the engine if one is named and launched. -/
theorem launchEngine_cases (host : PluginHost μ κ ε) (engine : MapEngine ε)
    (params : Config.ManagerParams) :
    ∃ result engine? logs,
      (launchEngine host engine params).run {} = ⟨result, ⟨engine?, [], []⟩, logs⟩ ∧
      ∀ loaded, result = .ok loaded ↔ params.mapEngine ≠ "" ∧
        ((host.launch engine params.mapEngine params.engine).run none).result = .ok loaded := by
  by_cases named : params.mapEngine = ""
  · exact ⟨.error .engineUnset, none, [], by simp [launchEngine, named], by simp [named]⟩
  · rcases launch : (host.launch engine params.mapEngine params.engine).run none
      with ⟨result, engine?, logs⟩
    exact ⟨result, engine?, logs, by simp [launchEngine, named, launch], by simp [named]⟩

/-- A start that is not ready fails before it asks for a timer; any other ends with the timers. -/
theorem start_turns (clockwork : Clockwork) (host : PluginHost μ κ ε) (engine : MapEngine ε)
    {held : Mapping} {params : Config.ManagerParams}
    (accepted : (Config.validate held).1 = .ok params) (buffer : β) (outbox : Outbox ω) :
    let outcome := (start host engine clockwork held buffer outbox).run {}
    (¬ Ready host engine params outbox ∧ (∃ fault, outcome.result = .error fault) ∧
      outcome.state.requested = [] ∧ outcome.state.timers = []) ∨
    (Ready host engine params outbox ∧ ∃ result coordinator startTime,
      Turns clockwork (timersOf params) outcome.state.requested outcome.state.timers result ∧
      outcome.result =
        result.map fun _ => ⟨params, coordinator, timersOf params, startTime⟩) := by
  intro outcome
  rcases launchEngine_cases host engine params with ⟨result, engine?, records, launch, gives⟩
  cases result with
  | error fault =>
      refine .inl ⟨fun ready => ?_, ?_⟩
      · rcases ready.launched with ⟨loaded, launched⟩
        cases (gives loaded).mpr ⟨ready.named, launched⟩
      · simp [outcome, start, run_readParameters accepted, launch, Assembly.timers]
  | ok loaded =>
      obtain ⟨named, launched⟩ := (gives loaded).mp rfl
      cases read : outbox.clock.reading with
      | error fault =>
          refine .inl ⟨fun ready => ?_, ?_⟩
          · rcases ready.timed with ⟨startTime, timed⟩
            rw [read] at timed
            cases timed
          · simp [outcome, start, run_readParameters accepted, launch, create, read,
              Assembly.timers, Endpoint.timer?]
      | ok startTime =>
          rcases setUp_returns params loaded buffer outbox
            ⟨engine?, TransformTopic.all.map .transforms ++ Output.all.map .publisher, []⟩
            with ⟨coordinator, logs, ready⟩
          let earlier : Assembly ε :=
            ⟨engine?, TransformTopic.all.map .transforms ++ (Output.all.map .publisher ++
              (Input.all.map .subscription ++ Service.all.map .service)), []⟩
          rcases equip_turns clockwork params coordinator startTime
            (show earlier.timers = [] from rfl) rfl with ⟨result, turns, returned⟩
          refine .inr ⟨⟨named, ⟨loaded, launched⟩, startTime, read⟩, result, coordinator,
            startTime, ?_⟩
          simpa [outcome, start, run_readParameters accepted, launch, create, read, ready]
            using And.intro turns returned

/--
Of a start with accepted parameters.  It is ready for the timers if the engine that the
parameters name is launched and the clock is read, and it returns exactly if it is ready and
no timer that it asks for is refused; a refusal is what it fails with.  Those asked for are
made up to the first that is refused, and a node that is returned has them all.

Each task has at most one timer.  One for publishing is asked for exactly if the start is
ready and the rate is positive or not a number, with the inverse of the rate as its period;
one for status reports exactly if the start is ready, their period is positive, and the one
for publishing was not refused, with that period.  If the parameters keep time, all timers
asked for are usable.  If they do not, a start that is ready asks for one that is not usable,
unless the clockwork has refused one that is.
-/
theorem started_timers_usable_iff (clockwork : Clockwork) (host : PluginHost μ κ ε)
    (engine : MapEngine ε) {held : Mapping} {params : Config.ManagerParams}
    (accepted : (Config.validate held).1 = .ok params) (buffer : β) (outbox : Outbox ω) :
    let outcome := (start host engine clockwork held buffer outbox).run {}
    let asked := outcome.state.requested
    let made := outcome.state.timers
    let ready := Ready host engine params outbox
    ((∃ node, outcome.result = .ok node) ↔ ready ∧ ∀ timer ∈ asked, clockwork.Makes timer) ∧
    (∀ timer ∈ asked, ∀ fault, clockwork.install timer = .error fault →
      outcome.result = .error fault) ∧
    (made <+: asked ∧ ∀ timer ∈ asked, timer ∈ made ↔ clockwork.Makes timer) ∧
    (∀ node, outcome.result = .ok node →
      node.params = params ∧ node.timers = asked ∧ made = asked) ∧
    (asked.map Timer.task).Sublist [.publishing, .status] ∧
    (∀ period, ⟨.publishing, period⟩ ∈ asked ↔
      ready ∧ (0 < params.mapPublishFrequency ∨ params.mapPublishFrequency.isNaN = true) ∧
        period = 1 / params.mapPublishFrequency) ∧
    (∀ period, ⟨.status, period⟩ ∈ asked ↔
      ready ∧ 0 < params.statusPeriod ∧ period = params.statusPeriod ∧
        ∀ earlier, ⟨.publishing, earlier⟩ ∈ asked → clockwork.Makes ⟨.publishing, earlier⟩) ∧
    (params.KeepsTime → ∀ timer ∈ asked, timer.Usable) ∧
    (ready → (∀ timer ∈ asked, timer.Usable → clockwork.Makes timer) →
      (∀ timer ∈ asked, timer.Usable) → params.KeepsTime) := by
  intro outcome asked made ready
  rcases start_turns clockwork host engine accepted buffer outbox with
    ⟨unready, ⟨fault, failed⟩, unasked, unmade⟩ |
    ⟨prepared, result, coordinator, startTime, turns, returned⟩
  · have unready : ¬ ready := unready
    have failed : outcome.result = .error fault := failed
    have unasked : asked = [] := unasked
    have unmade : made = [] := unmade
    simp [failed, unasked, unmade, unready]
  have prepared : ready := prepared
  have turns : Turns clockwork (timersOf params) asked made result := turns
  have returned : outcome.result =
      result.map fun _ => ⟨params, coordinator, timersOf params, startTime⟩ := returned
  refine ⟨?_, ?_, ⟨turns.made_prefix, fun timer => turns.mem_made_iff⟩, ?_,
    (turns.sublist.map _).trans (tasks_sublist params), ?_, ?_, ?_, ?_⟩
  · rw [returned]
    rcases turns.all_or_refused with ⟨rfl, -, -, all⟩ | ⟨fault, rfl, timer, member, refuses⟩
    · exact iff_of_true ⟨_, rfl⟩ ⟨prepared, all⟩
    · refine iff_of_false (by simp [Except.map]) fun ⟨_, all⟩ => ?_
      exact (all timer member).not_refuses fault refuses
  · intro timer member fault refuses
    rw [returned, turns.result_of_refused member refuses]
    rfl
  · rw [returned]
    rcases turns.all_or_refused with ⟨rfl, whole, complete, -⟩ | ⟨fault, rfl, -⟩
    · rintro node ⟨⟩
      exact ⟨rfl, whole.symm, complete.trans whole.symm⟩
    · rintro node ⟨⟩
  · intro period
    simp [prepared, publishing_asked_iff turns]
  · intro period
    rw [status_asked_iff turns]
    simp [prepared]
  · exact fun keeps timer member =>
      (timersOf_usable_iff params).mpr keeps timer (turns.sublist.subset member)
  · intro _ trusted usable
    rcases turns.all_or_refused with ⟨-, all, -⟩ | ⟨fault, -, timer, member, refuses⟩
    · rw [all] at usable
      exact (timersOf_usable_iff params).mp usable
    · have makes : clockwork.Makes timer := trusted timer member (usable timer member)
      exact (makes.not_refuses fault refuses).elim

end MapNode

namespace Rehearsal

/-- Parameters with a rate of publishing and a period of status reports. -/
def ratedParams (rate period : Float) : Config.ManagerParams where
  mapPublishFrequency := rate
  statusPeriod := period
  mapEngine := "engines:Plain"

/-- The namespace of these parameters. -/
def rated (rate period : Float) : Mapping :=
  [(.text "map_publish_frequency", .float rate),
    (.text "status_publish_period_sec", .float period), (.text "map_engine", .text "engines:Plain")]

/-- The start of a node with that namespace. -/
def ratedStart (clockwork : Clockwork) (rate period : Float) :
    Outcome (Assembly ScriptedEngine) (MapNode ScriptedEngine Unit Unit) :=
  (MapNode.start sampleHost ScriptedEngine.mapEngine clockwork (rated rate period) ()
    ⟨{}, ()⟩).run {}

/-- With these parameters the engine is launched and the clock is read. -/
theorem rated_ready (rate period : Float) :
    MapNode.Ready sampleHost ScriptedEngine.mapEngine (ratedParams rate period)
      (⟨{}, ()⟩ : Outbox Unit) where
  named := by simp [ratedParams]
  launched := ⟨_, (sampleHost.launch_eq_ok_iff ScriptedEngine.mapEngine
    (ratedParams rate period).engine none).mpr ⟨_, plain_makes, rfl⟩⟩
  timed := ⟨.real 0, by decide +kernel⟩

/-- Twice a second maps are published, and every five seconds there is a report. -/
theorem steady_timers_usable :
    let outcome := ratedStart countingClockwork 2.0 5.0
    (∃ node, outcome.result = .ok node) ∧
      ⟨.publishing, 1 / 2.0⟩ ∈ outcome.state.timers ∧ ⟨.status, 5.0⟩ ∈ outcome.state.timers ∧
      ∀ timer ∈ outcome.state.timers, timer.Usable := by
  intro outcome
  have accepted : (Config.validate (rated 2.0 5.0)).1 = .ok (ratedParams 2.0 5.0) := by
    decide +kernel
  have rate : 0 < (ratedParams 2.0 5.0).mapPublishFrequency := by decide +kernel
  have period : 0 < (ratedParams 2.0 5.0).statusPeriod := by decide +kernel
  have inverse : Timer.Usable ⟨.publishing, 1 / 2.0⟩ := ⟨by decide +kernel, by decide +kernel⟩
  have keeps : (ratedParams 2.0 5.0).KeepsTime :=
    ⟨by decide +kernel, fun positive => (MapNode.inverse_usable_iff (.inl positive)).mp inverse,
      fun _ => by decide +kernel⟩
  have ready := rated_ready 2.0 5.0
  have first : countingClockwork.install ⟨.publishing, 1 / 2.0⟩ = .ok () := by decide +kernel
  have second : countingClockwork.install ⟨.status, 5.0⟩ = .ok () := by decide +kernel
  rcases MapNode.started_timers_usable_iff countingClockwork sampleHost ScriptedEngine.mapEngine
    accepted () ⟨{}, ()⟩ with ⟨returns, -, -, complete, -, publishing, status, usable, -⟩
  have publishes : ∀ period', ⟨.publishing, period'⟩ ∈ outcome.state.requested ↔
      period' = 1 / 2.0 := fun period' =>
    (publishing period').trans ⟨fun asked => asked.2.2, fun same => ⟨ready, .inl rate, same⟩⟩
  have reports : ∀ period', ⟨.status, period'⟩ ∈ outcome.state.requested ↔ period' = 5.0 := by
    intro period'
    refine (status period').trans ⟨fun asked => asked.2.2.1, fun same =>
      ⟨ready, period, same, fun earlier asked => ?_⟩⟩
    rw [(publishes earlier).mp asked]
    exact first
  have all : ∀ timer ∈ outcome.state.requested, countingClockwork.Makes timer := by
    rintro ⟨task, period'⟩ asked
    cases task with
    | publishing =>
        rw [(publishes period').mp asked]
        exact first
    | status =>
        rw [(reports period').mp asked]
        exact second
  rcases returns.mpr ⟨ready, all⟩ with ⟨node, returned⟩
  have whole : outcome.state.timers = outcome.state.requested := (complete node returned).2.2
  rw [whole]
  exact ⟨⟨node, returned⟩, (publishes _).mpr rfl, (reports _).mpr rfl, usable keeps⟩

/-- A rate that is not a number is accepted, and no clockwork keeps the start from the timers. -/
theorem strange_turns (clockwork : Clockwork) :
    let outcome := ratedStart clockwork (0.0 / 0.0) 5.0
    ∃ result node,
      MapNode.Turns clockwork (MapNode.timersOf (ratedParams (0.0 / 0.0) 5.0))
        outcome.state.requested outcome.state.timers result ∧
      ⟨.publishing, 1 / (0.0 / 0.0)⟩ ∈ outcome.state.requested ∧
      outcome.result = result.map fun _ => node := by
  have accepted : (Config.validate (rated (0.0 / 0.0) 5.0)).1 =
      .ok (ratedParams (0.0 / 0.0) 5.0) := by
    decide +kernel
  have strange : (ratedParams (0.0 / 0.0) 5.0).mapPublishFrequency.isNaN = true := by
    decide +kernel
  rcases MapNode.start_turns clockwork sampleHost ScriptedEngine.mapEngine accepted () ⟨{}, ()⟩
    with ⟨unready, -⟩ | ⟨-, result, coordinator, startTime, turns, returned⟩
  · exact (unready (rated_ready _ _)).elim
  · exact ⟨result, _, turns, (MapNode.publishing_asked_iff turns _).mpr ⟨.inr strange, rfl⟩,
      returned⟩

/--
A rate that is not a number asks for a timer whose period is not one either.  The node
starts with it if the clockwork makes every timer, and fails if it counts nanoseconds.
-/
theorem strange_rate_timed :
    let timer : Timer := ⟨.publishing, 1 / (0.0 / 0.0)⟩
    let trusting := ratedStart patientClockwork (0.0 / 0.0) 5.0
    let counting := ratedStart countingClockwork (0.0 / 0.0) 5.0
    (¬ 0 < (0.0 / 0.0 : Float) ∧ timer.period.isNaN = true ∧ ¬ timer.Usable) ∧
      (timer ∈ trusting.state.requested ∧ ∃ node, trusting.result = .ok node) ∧
      (timer ∈ counting.state.requested ∧
        counting.result = .error (.conversion .integerOfNaN)) := by
  intro timer trusting counting
  have strange : timer.period.isNaN = true := by decide +kernel
  have refused : countingClockwork.install timer = .error (.conversion .integerOfNaN) := by
    decide +kernel
  refine ⟨⟨by decide +kernel, strange, fun usable => ?_⟩, ?_, ?_⟩
  · have number := isNaN_of_isFinite usable.finite
    rw [strange] at number
    cases number
  · rcases strange_turns patientClockwork with ⟨result, node, turns, asked, returned⟩
    refine ⟨asked, node, ?_⟩
    rcases turns.all_or_refused with ⟨rfl, -⟩ | ⟨fault, -, timer, -, refuses⟩
    · exact returned
    · cases refuses
  · rcases strange_turns countingClockwork with ⟨result, node, turns, asked, returned⟩
    rw [turns.result_of_refused asked refused] at returned
    exact ⟨asked, returned⟩

end Rehearsal

end MapIngest
