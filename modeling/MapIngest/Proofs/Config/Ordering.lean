import MapIngest.Proofs.Config.Intrusion
import MapIngest.Proofs.Run

/-!
# Broken orderings between the engine's parameters

A value that is assigned to a field of the engine's parameters is first held against the
field alone.  If the field refuses it, nothing changes.  Otherwise it is stored, and only
then the orderings are looked at, so that a run of assignments goes through parameters
that could never be built.

Whether an ordering is broken after a run can be told from the last assignment whose
value was stored: it failed exactly if one is.  The limits of the single fields are kept
all the time, and two further assignments are enough to put both orderings right again.
-/

namespace MapIngest.Config.EngineParams

/-- A value for a field of the engine's parameters. -/
structure Setting where
  field : Field EngineParams
  known : field ∈ schema.fields
  value : Value

namespace Setting

variable {setting : Setting} {params : EngineParams}

/-- Assign the value under the name of the field. -/
def assign (setting : Setting) : Act EngineParams Unit := fun params =>
  let (outcome, after) := assignNamed schema [] params setting.field.name setting.value
  ⟨outcome, after, []⟩

/-- The field accepts the value, and holds `held` afterwards. -/
def ReadAs (setting : Setting) (held : Value) : Prop :=
  setting.field.Stores setting.value held

/-- The field refuses the value. -/
def Refused (setting : Setting) : Prop :=
  setting.field.Refuses setting.value

theorem read_or_refused (setting : Setting) :
    (∃ held, setting.ReadAs held) ∨ setting.Refused :=
  (fields_lawful.lawful setting.field setting.known).decides setting.value

theorem ReadAs.not_refused {held : Value} (read : setting.ReadAs held) : ¬ setting.Refused :=
  fun refused => refused.not_stores {} read

theorem run_assign_of_store {after : EngineParams}
    (stored : setting.field.store setting.value params = .ok after) :
    setting.assign.run params =
      ⟨Report.refused ((schema.checked after).map fun _ => ()), after, []⟩ := by
  have shared := ManagerParams.not_private_engine _ (List.mem_map_of_mem setting.known)
  rw [Act.run, assign,
    assignNamed_of_store names_nodup setting.known shared List.not_mem_nil stored]

theorem run_assign_of_refusal {issues : List Issue}
    (refused : setting.field.store setting.value params = .error issues) :
    setting.assign.run params = ⟨.error (.invalid ⟨schema.record, issues⟩), params, []⟩ := by
  have shared := ManagerParams.not_private_engine _ (List.mem_map_of_mem setting.known)
  rw [Act.run, assign, assignNamed, shared, Schema.assign,
    Schema.find?_name names_nodup setting.known]
  simp only [refused]
  rfl

end Setting

/-! ## One assignment -/

/-- What one assignment to a field does. -/
structure Assigns (visit : Visit EngineParams Setting Unit) : Prop where
  /-- Afterwards every field keeps its own limits. -/
  limited : visit.outcome.state.Limited
  /-- A value that its field refuses is reported, and nothing changes. -/
  refused : visit.input.Refused →
    (∃ issue issues, visit.outcome.result =
      .error (.invalid ⟨schema.record, issue :: issues⟩)) ∧
    visit.outcome.state = visit.before
  /-- Any other value is stored as what it is read as, and no other field changes. -/
  stored : ∀ held, visit.input.ReadAs held →
    visit.input.field.get visit.outcome.state = held ∧
      ∀ other ∈ schema.fields, other.name ≠ visit.input.field.name →
        other.get visit.outcome.state = other.get visit.before
  /-- A value that is stored is accepted exactly if it leaves both orderings kept. -/
  accepted : ∀ held, visit.input.ReadAs held →
    (visit.outcome.result = .ok () ↔ breach? visit.outcome.state = none)
  /-- Otherwise the ordering that is found broken is reported. -/
  breached : ∀ held breach, visit.input.ReadAs held →
    breach? visit.outcome.state = some breach →
      visit.outcome.result = .error (.invalid ⟨schema.record, [⟨.breach breach, []⟩]⟩)

/-- Every field takes back what it holds. -/
def Rereads (params : EngineParams) : Prop :=
  ∀ field ∈ schema.fields, field.Stores (field.get params) (field.get params)

theorem Rereads.assign {params : EngineParams} (rereads : Rereads params) (setting : Setting) :
    Rereads (setting.assign.run params).state := by
  cases outcome : setting.field.store setting.value params with
  | ok after =>
      rw [Setting.run_assign_of_store outcome]
      exact Schema.stores_of_store fields_lawful setting.known outcome rereads
  | error issues =>
      rw [Setting.run_assign_of_refusal outcome]
      exact rereads

theorem checked_of_breach {params : EngineParams} {breach : Breach}
    (broken : breach? params = some breach) :
    schema.checked params = .error ⟨schema.record, [⟨.breach breach, []⟩]⟩ := by
  rw [Schema.checked, show schema.breach? params = some breach from broken]

theorem checked_of_sound {params : EngineParams} (sound : breach? params = none) :
    schema.checked params = .ok params := by
  rw [Schema.checked, show schema.breach? params = none from sound]

/-- A stored value is accepted exactly if no ordering is broken by it. -/
theorem result_assign_of_read {setting : Setting} {held : Value} (read : setting.ReadAs held)
    (params : EngineParams) :
    (setting.assign.run params).result =
      match breach? (setting.assign.run params).state with
      | none => .ok ()
      | some breach => .error (.invalid ⟨schema.record, [⟨.breach breach, []⟩]⟩) := by
  rcases read params with ⟨after, stored, -⟩
  rw [Setting.run_assign_of_store stored]
  cases broken : breach? after with
  | none => rw [checked_of_sound broken]; rfl
  | some breach => rw [checked_of_breach broken]; rfl

theorem Rereads.assigns {params : EngineParams} (rereads : Rereads params) (setting : Setting) :
    Assigns ⟨params, setting, setting.assign.run params⟩ where
  limited := limited_of_stores (rereads.assign setting)
  refused refused := by
    rcases refused params with ⟨issue, issues, failed⟩
    dsimp only
    rw [Setting.run_assign_of_refusal failed]
    exact ⟨⟨issue, issues, rfl⟩, rfl⟩
  stored held read := by
    rcases read params with ⟨after, stored, holds⟩
    dsimp only
    rw [Setting.run_assign_of_store stored]
    refine ⟨holds, fun other member apart => ?_⟩
    have symmetric : Std.Symm fun first second : Field EngineParams =>
        first.Spares second.get ∧ second.Spares first.get := ⟨fun _ _ both => both.symm⟩
    have unequal : setting.field ≠ other := by
      rintro rfl
      exact apart rfl
    exact (fields_lawful.apart.forall setting.known member unequal).1 stored
  accepted held read := by
    dsimp only
    rw [result_assign_of_read read]
    cases breach? (setting.assign.run params).state <;> simp
  breached held breach read broken := by
    dsimp only at broken ⊢
    rw [result_assign_of_read read, broken]

/-! ## The last assignment that was stored -/

/-- The last assignment whose value was stored failed. -/
def LastStoredFailed (visits : List (Visit EngineParams Setting Unit)) : Prop :=
  ∃ earlier visit later, visits = earlier ++ visit :: later ∧
    (∃ held, visit.input.ReadAs held) ∧ (∃ fault, visit.outcome.result = .error fault) ∧
    ∀ other ∈ later, other.input.Refused

theorem lastStoredFailed_of_read {visits : List (Visit EngineParams Setting Unit)}
    {visit : Visit EngineParams Setting Unit} {held : Value} (read : visit.input.ReadAs held) :
    LastStoredFailed (visits ++ [visit]) ↔ ∃ fault, visit.outcome.result = .error fault := by
  constructor
  · rintro ⟨earlier, last, later, parts, -, failed, refused⟩
    rcases later.eq_nil_or_concat' with rfl | ⟨others, final, rfl⟩
    · obtain rfl := (List.append_inj' parts rfl).2 |> List.singleton_inj.mp
      exact failed
    · -- The last visit would have been refused.
      rw [← List.cons_append, ← List.append_assoc] at parts
      obtain rfl := (List.append_inj' parts rfl).2 |> List.singleton_inj.mp
      exact (read.not_refused (refused visit (by simp))).elim
  · intro failed
    exact ⟨visits, visit, [], rfl, ⟨held, read⟩, failed, by simp⟩

theorem lastStoredFailed_of_refused {visits : List (Visit EngineParams Setting Unit)}
    {visit : Visit EngineParams Setting Unit} (refused : visit.input.Refused) :
    LastStoredFailed (visits ++ [visit]) ↔ LastStoredFailed visits := by
  constructor
  · rintro ⟨earlier, last, later, parts, ⟨held, read⟩, failed, others⟩
    rcases later.eq_nil_or_concat' with rfl | ⟨rest, final, rfl⟩
    · obtain rfl := (List.append_inj' parts rfl).2 |> List.singleton_inj.mp
      exact (read.not_refused refused).elim
    · rw [← List.cons_append, ← List.append_assoc] at parts
      refine ⟨earlier, last, rest, (List.append_inj' parts rfl).1, ⟨held, read⟩, failed, ?_⟩
      exact fun other member => others other (List.mem_append_left _ member)
  · rintro ⟨earlier, last, later, rfl, read, failed, others⟩
    refine ⟨earlier, last, later ++ [visit], by simp, read, failed, ?_⟩
    rw [List.forall_mem_append, List.forall_mem_singleton]
    exact ⟨others, refused⟩

/-- An ordering is broken after a run exactly if the last assignment that was stored failed. -/
theorem breach?_after_ne_none_iff {params : EngineParams} (sound : breach? params = none)
    (settings : List Setting) :
    breach? (Run.after Setting.assign params settings) ≠ none ↔
      LastStoredFailed (Run.visits Setting.assign params settings) := by
  induction settings using List.reverseRecOn with
  | nil =>
      refine iff_of_false (not_not_intro sound) ?_
      rintro ⟨earlier, visit, later, parts, -⟩
      simp at parts
  | append_singleton earlier setting ih =>
      rw [Run.after_concat, Run.visits_concat]
      rcases setting.read_or_refused with ⟨held, read⟩ | refused
      · rw [lastStoredFailed_of_read read, result_assign_of_read read]
        cases breach? (setting.assign.run (Run.after Setting.assign params earlier)).state <;> simp
      · rw [lastStoredFailed_of_refused refused, ← ih]
        rcases refused (Run.after Setting.assign params earlier) with ⟨issue, issues, failed⟩
        rw [Setting.run_assign_of_refusal failed]

/-! ## Repairing -/

/-- Raise the upper threshold to the lower one. -/
def raiseThreshold (params : EngineParams) : Setting where
  field := schema.fields[4]
  known := List.getElem_mem _
  value := .float params.thresholdMin

/-- Raise the ceiling of the shown band to its floor. -/
def raiseCeiling (params : EngineParams) : Setting where
  field := schema.fields[9]
  known := List.getElem_mem _
  value := .float params.visualizeMinZ

theorem store_raiseThreshold {params : EngineParams} (limited : params.Limited) :
    (raiseThreshold params).field.store (raiseThreshold params).value params =
      .ok { params with thresholdMax := params.thresholdMin } := by
  have kept : ∀ limit ∈ [Limit.atMost 1.0, .atLeast 0.0],
      limit.admits params.thresholdMin = true := by
    simp [Limit.admits, limited.lower]
  have read : readFloatWithin [.atMost 1.0, .atLeast 0.0] (.float params.thresholdMin) =
      .ok params.thresholdMin := by
    rw [readFloatWithin]
    exact withinLimits_eq_ok_iff.mpr ⟨kept, rfl⟩
  simp [raiseThreshold, schema, fields, floatField, Field.simple, read]

/-- Two assignments put both orderings right, and the second of them succeeds. -/
theorem exists_repair {params : EngineParams} (limited : params.Limited) :
    ∃ first second : Setting, ∃ repaired,
      second.assign.run (first.assign.run params).state = ⟨.ok (), repaired, []⟩ ∧
        breach? repaired = none := by
  let raised : EngineParams := { params with thresholdMax := params.thresholdMin }
  let repaired : EngineParams := { raised with visualizeMaxZ := params.visualizeMinZ }
  have sound : breach? repaired = none :=
    (breach?_eq_none_iff repaired).mpr ⟨Decimal.not_lt_self _, Decimal.not_lt_self _⟩
  have stored : (raiseCeiling raised).field.store (raiseCeiling raised).value raised =
      .ok repaired := rfl
  refine ⟨raiseThreshold params, raiseCeiling raised, repaired, ?_, sound⟩
  rw [Setting.run_assign_of_store (store_raiseThreshold limited),
    Setting.run_assign_of_store stored, checked_of_sound sound]
  rfl

/-! ## Runs of assignments -/

/--
Let values be assigned one after the other to fields of parameters that were built.  Each
assignment leaves all limits of single fields kept.  It changes nothing if its field
refuses the value; otherwise it stores what the value is read as, and succeeds exactly if
the parameters then break no ordering.  Whether they break one after the run can be told
from the last assignment that stored its value.  Two more assignments repair them.
-/
theorem settings_stored_then_checked {given : Mapping} {params : EngineParams}
    (built : build given = .ok params) (settings : List Setting) :
    let reached := Run.after Setting.assign params settings
    let visits := Run.visits Setting.assign params settings
    (∀ visit ∈ visits, Assigns visit) ∧
      (∀ visit ∈ visits, (∃ held, visit.input.ReadAs held) ∨ visit.input.Refused) ∧
      (breach? reached ≠ none ↔ LastStoredFailed visits) ∧
      ∃ first second : Setting, ∃ repaired,
        second.assign.run (first.assign.run reached).state = ⟨.ok (), repaired, []⟩ ∧
          breach? repaired = none := by
  have rereads : Rereads params := ManagerParams.stores_of_built built
  have sound : breach? params = none := ((schema.build_eq_ok_iff).mp built).2.2
  have keeps : ∀ (state : EngineParams) (setting : Setting), True → Rereads state →
      Rereads (setting.assign.run state).state := fun _ setting _ fixed => fixed.assign setting
  refine ⟨?_, fun visit _ => visit.input.read_or_refused,
    breach?_after_ne_none_iff sound settings, ?_⟩
  · exact Run.forall_visits keeps (fun _ setting _ fixed => fixed.assigns setting) rereads
      fun _ _ => trivial
  · have reached : Rereads (Run.after Setting.assign params settings) :=
      Run.holds_after keeps rereads fun _ _ => trivial
    exact exists_repair (limited_of_stores reached)

/-! ## A threshold above the other one -/

/-- A lower threshold above the default of the upper one. -/
def steepThreshold : Setting where
  field := schema.fields[3]
  known := List.getElem_mem _
  value := .text "0.99"

/-- A resolution that its field refuses. -/
def vanishingResolution : Setting where
  field := schema.fields[0]
  known := List.getElem_mem _
  value := .int 0

/-- The refused resolution leaves the broken ordering that the threshold brought about. -/
theorem steepThreshold_last_stored :
    build [] = .ok {} ∧
      LastStoredFailed (Run.visits Setting.assign {} [steepThreshold, vanishingResolution]) := by
  have built : build [] = .ok {} := by decide +kernel
  have broken :
      breach? (Run.after Setting.assign {} [steepThreshold, vanishingResolution]) ≠ none := by
    decide +kernel
  exact ⟨built, (settings_stored_then_checked built _).2.2.1.mp broken⟩

end MapIngest.Config.EngineParams
