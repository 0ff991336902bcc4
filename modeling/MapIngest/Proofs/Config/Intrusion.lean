import MapIngest.Proofs.Config.Assignment

/-!
# Refused assignments that change something

A value that the engine stores may still be refused, by the check of the orderings
between its parameters, and then it stays.  These are the refused assignments that
change something, and there are no others.

After a run of assignments the parameters are read again from the namespace that they
are written as, unless a stored value has left an ordering broken.  In particular they
are after every run in which no assignment intrudes in this way.
-/

namespace MapIngest.Config

namespace ManagerParams

/-! ## Which assignments intrude -/

theorem toNamespace_injective : Function.Injective toNamespace := by
  intro left right same
  have sizes : (ownSchema.toMapping left).length = (ownSchema.toMapping right).length := by
    simp [Schema.toMapping]
  rcases List.append_inj same sizes with ⟨own, engine⟩
  exact eq_of_get (Schema.get_of_toMapping own)
    (EngineParams.eq_of_get (Schema.get_of_toMapping engine))

theorem not_private_engine : ∀ name ∈ EngineParams.schema.names, isPrivateName name = false := by
  decide +kernel

/-- A value that the engine stores goes through its check, and is there in any case. -/
theorem assign_engine_of_store {params : ManagerParams} {assignment : Assignment}
    (target : assignment.target = .engine) {field : Field EngineParams}
    (member : field ∈ EngineParams.schema.fields) (named : field.name = assignment.name)
    {engine : EngineParams} (stored : field.store assignment.value params.engine = .ok engine) :
    params.assign assignment =
      (Report.refused ((EngineParams.schema.checked engine).map fun _ => ()),
        { params with engine := engine }) := by
  rcases assignment with ⟨_, name, value⟩
  obtain rfl : field.name = name := named
  obtain rfl : _ = Target.engine := target
  have shared := not_private_engine field.name (List.mem_map_of_mem member)
  simp only [assign,
    assignNamed_of_store EngineParams.names_nodup member shared List.not_mem_nil stored]

end ManagerParams

/-- The engine stores a value in place of another one, and an ordering is broken by it. -/
def Assignment.Intrudes (assignment : Assignment) (params : ManagerParams) : Prop :=
  assignment.target = .engine ∧
    ∃ field ∈ EngineParams.schema.fields, field.name = assignment.name ∧
      ∃ engine, field.store assignment.value params.engine = .ok engine ∧
        engine ≠ params.engine ∧ EngineParams.breach? engine ≠ none

namespace ManagerParams

variable {params : ManagerParams} {assignment : Assignment}

/-- What the engine's check refuses. -/
theorem refused_checked_iff (engine : EngineParams) :
    (∃ fault, Report.refused ((EngineParams.schema.checked engine).map fun _ => ()) =
      Except.error fault) ↔ EngineParams.breach? engine ≠ none := by
  rw [Schema.checked]
  change _ ↔ EngineParams.schema.breach? engine ≠ none
  cases EngineParams.schema.breach? engine with
  | none => simp [Except.map, Report.refused]
  | some breach => simp [Except.map, Report.refused]

/-- An assignment that is refused and changes something is one that intrudes. -/
theorem refused_and_changed_iff (params : ManagerParams) (assignment : Assignment) :
    ((∃ fault, (params.assign assignment).1 = .error fault) ∧
        (params.assign assignment).2.toNamespace ≠ params.toNamespace) ↔
      assignment.Intrudes params := by
  constructor
  · rintro ⟨refused, changed⟩
    have effect := assign_effect params assignment
    generalize params.assign assignment = result at effect refused changed
    -- Only the engine's check comes after the value is stored.
    cases effect with
    | kept outcome => exact (changed rfl).elim
    | own member stored =>
        rcases refused with ⟨fault, returned⟩
        cases returned
    | replaced built =>
        rcases refused with ⟨fault, returned⟩
        cases returned
    | @engine field engine target member named stored =>
        refine ⟨target, field, member, named, engine, stored, ?_,
          (refused_checked_iff engine).mp refused⟩
        rintro rfl
        exact changed rfl
  · rintro ⟨target, field, member, named, engine, stored, other, broken⟩
    rw [assign_engine_of_store target member named stored]
    refine ⟨(refused_checked_iff engine).mpr broken, ?_⟩
    intro same
    exact other (congrArg ManagerParams.engine (toNamespace_injective same))

/-- No ordering of the engine is broken. -/
def Sound (params : ManagerParams) : Prop :=
  EngineParams.breach? params.engine = none

/-- An assignment that does not intrude leaves the engine's orderings as they are. -/
theorem Effect.sound {result : Except Fault Unit × ManagerParams}
    (effect : Effect params assignment result) (harmless : ¬ assignment.Intrudes params)
    (sound : params.Sound) : result.2.Sound := by
  cases effect with
  | kept outcome => exact sound
  | @own field after member stored =>
      rw [Sound, spares_engine field member stored]
      exact sound
  | replaced built => exact (Schema.build_eq_ok_iff _).mp built |>.2.2
  | @engine field engine target member named stored =>
      by_contra broken
      apply harmless
      refine ⟨target, field, member, named, engine, stored, ?_, broken⟩
      rintro rfl
      exact broken sound

theorem Sound.after (sound : params.Sound) {assignments : List Assignment}
    (harmless : ∀ visit ∈ Run.visits Assignment.act params assignments,
      ¬ visit.input.Intrudes visit.before) :
    (Run.after Assignment.act params assignments).Sound := by
  have keeps : ∀ (state : ManagerParams) (assignment : Assignment),
      ¬ assignment.Intrudes state → state.Sound → (assignment.act.run state).state.Sound :=
    fun state assignment => (assign_effect state assignment).sound
  exact Run.holds_after_visits keeps sound harmless

/--
In a run of assignments on accepted parameters, a refused assignment changes what is
written exactly if it intrudes.  After the run the written parameters are accepted
exactly if no ordering of the engine is broken, and so after every run in which no
assignment intrudes.
-/
theorem refused_changes_iff_intrudes {given : Mapping} (accepted : ofNamespace given = .ok params)
    (assignments : List Assignment) :
    let reached := Run.after Assignment.act params assignments
    let visits := Run.visits Assignment.act params assignments
    (∀ visit ∈ visits,
      ((∃ fault, visit.outcome.result = .error fault) ∧
          visit.outcome.state.toNamespace ≠ visit.before.toNamespace) ↔
        visit.input.Intrudes visit.before) ∧
    ((∃ again, ofNamespace reached.toNamespace = .ok again) ↔
      EngineParams.breach? reached.engine = none) ∧
    ((∀ visit ∈ visits, ¬ visit.input.Intrudes visit.before) →
      ∃ again, ofNamespace reached.toNamespace = .ok again) := by
  intro reached visits
  have settled : reached.Settled := (settled_of_accepted accepted).after assignments
  refine ⟨?_, settled.read_again, ?_⟩
  · exact Run.forall_visits_of_forall refused_and_changed_iff params assignments
  · intro harmless
    have sound : params.Sound := breach?_engine accepted
    exact settled.read_again.mpr (sound.after harmless)

/-! ## An assignment that intrudes -/

/-- A negative resolution, which is refused by its field. -/
def negativeResolution : Assignment where
  target := .engine
  name := "resolution"
  value := .float (-1.0)

/-- A lower threshold above the default of the upper one. -/
def highThreshold : Assignment where
  target := .engine
  name := "threshold_min"
  value := .float 0.99

theorem default_accepted : ofNamespace [] = .ok {} := by decide +kernel

/-- The refused threshold stays. -/
theorem assign_highThreshold :
    ({} : ManagerParams).assign highThreshold =
      (.error (.invalid ⟨"OctomapParameters", [⟨.breach (.thresholds 0.99 0.97), []⟩]⟩),
        { engine := { thresholdMin := 0.99 } }) := by
  decide +kernel

/-- After an intruding assignment the parameters are no longer accepted. -/
theorem highThreshold_unreadable :
    ofNamespace [] = .ok {} ∧
      ¬ ∃ again, ofNamespace
        (Run.after Assignment.act {} [negativeResolution, highThreshold]).toNamespace =
          .ok again := by
  have run := refused_changes_iff_intrudes default_accepted [negativeResolution, highThreshold]
  refine ⟨default_accepted, ?_⟩
  rw [run.2.1]
  decide +kernel

/-- A refused assignment does not always leave the parameters as they were. -/
theorem refused_assignment_stored :
    ¬ ∀ (given : Mapping) (params : ManagerParams) (assignment : Assignment),
      ofNamespace given = .ok params →
      (∃ fault, (params.assign assignment).1 = .error fault) →
        (params.assign assignment).2.toNamespace = params.toNamespace := by
  intro unchanged
  have same := toNamespace_injective (unchanged [] {} highThreshold default_accepted
    ⟨_, congrArg Prod.fst assign_highThreshold⟩)
  rw [assign_highThreshold] at same
  have different : ({ thresholdMin := 0.99 } : EngineParams) ≠ {} := by decide +kernel
  exact different (congrArg ManagerParams.engine same)

end ManagerParams

end MapIngest.Config
