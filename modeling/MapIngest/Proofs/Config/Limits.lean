import MapIngest.Proofs.Config.RoundTrip
import MapIngest.Proofs.Decimal.Order

/-!
# Limits of accepted parameters

Parameters that a namespace is read as keep the limits of their fields, whatever
spellings the namespace used: a field that takes back what it holds holds something
within its limits.  A comparison with a result that is not a number fails, so that a
double with a limit is a number, and the two thresholds are in order.

The heights of the shown band have no limits of their own.  They are in order exactly
if both are numbers: the check of their order only refuses a floor above the ceiling.
-/

namespace MapIngest.Config

/-! ## What fields hold that take it back -/

/-- Every field of the parameters takes back what it holds. -/
structure ManagerParams.Settled (params : ManagerParams) : Prop where
  engine : ∀ field ∈ EngineParams.schema.fields,
    field.Stores (field.get params.engine) (field.get params.engine)
  own : ∀ field ∈ ownSchema.fields, field.Stores (field.get params) (field.get params)

theorem ManagerParams.settled_of_accepted {given : Mapping} {params : ManagerParams}
    (accepted : ofNamespace given = .ok params) : params.Settled := by
  rcases stores_get accepted with ⟨engine, own⟩
  exact ⟨engine, own⟩

namespace Field

variable {ρ α : Type} {name : String} {read : Value → Except Refusal α}
  {dump : α → Value} {get : ρ → α} {set : α → ρ → ρ}

/-- A value that a simple field stores is one that its reader reads. -/
theorem read_of_simple_stores [Inhabited ρ] {value held : Value}
    (stores : (simple name read dump get set).Stores value held) :
    ∃ stored, read value = .ok stored := by
  rcases stores default with ⟨after, accepted, -⟩
  cases outcome : read value with
  | ok stored => exact ⟨stored, rfl⟩
  | error refusal =>
      simp only [simple, outcome] at accepted
      cases accepted

/-- A double that a field stores is within the limits of the field. -/
theorem admits_of_simple_stores [Inhabited ρ] {limits : List Limit} {get : ρ → Float}
    {set : Float → ρ → ρ} {number : Float} {held : Value}
    (stores : (simple name (readFloatWithin limits) .float get set).Stores (.float number) held) :
    ∀ limit ∈ limits, limit.admits number = true := by
  rcases read_of_simple_stores stores with ⟨stored, read⟩
  exact (withinLimits_eq_ok_iff.mp read).1

end Field

/-! ## The engine's limits -/

/-- The limits that the fields of the engine's parameters keep, each by itself. -/
structure EngineParams.Limited (params : EngineParams) : Prop where
  resolution : 0.0 < params.resolution
  hit : 0.0 < params.probabilityHit ∧ params.probabilityHit < 1.0
  miss : 0.0 < params.probabilityMiss ∧ params.probabilityMiss < 1.0
  lower : 0.0 ≤ params.thresholdMin ∧ params.thresholdMin ≤ 1.0
  upper : 0.0 ≤ params.thresholdMax ∧ params.thresholdMax ≤ 1.0
  occupancy : 0.0 ≤ params.thresholdOccupancy ∧ params.thresholdOccupancy ≤ 1.0
  range : 0.0 < params.sensorMaxRange

/-- The limits of the engine's parameters, without the order of the heights. -/
structure EngineParams.Bounded (params : EngineParams) : Prop extends params.Limited where
  thresholds : params.thresholdMin ≤ params.thresholdMax

namespace EngineParams

/-- Parameters that break no ordering have neither pair the wrong way round. -/
theorem breach?_eq_none_iff (params : EngineParams) :
    breach? params = none ↔
      ¬ params.thresholdMax < params.thresholdMin ∧
        ¬ params.visualizeMaxZ < params.visualizeMinZ := by
  rw [breach?]
  split
  next crossed => simp [crossed]
  next ordered =>
    split
    next crossed => simp [crossed]
    next band => simp [ordered, band]

/-- Fields that take back what they hold keep their limits. -/
theorem limited_of_stores {params : EngineParams}
    (settled : ∀ field ∈ schema.fields, field.Stores (field.get params) (field.get params)) :
    params.Limited := by
  simp only [schema, fields, List.forall_mem_cons] at settled
  rcases settled with ⟨resolution, hit, miss, lower, upper, occupancy, -, range, -⟩
  have resolution := Field.admits_of_simple_stores resolution
  have hit := Field.admits_of_simple_stores hit
  have miss := Field.admits_of_simple_stores miss
  have lower := Field.admits_of_simple_stores lower
  have upper := Field.admits_of_simple_stores upper
  have occupancy := Field.admits_of_simple_stores occupancy
  have range := Field.admits_of_simple_stores range
  simp only [List.forall_mem_cons, Limit.admits, decide_eq_true_eq, List.not_mem_nil,
    false_implies, implies_true, and_true] at resolution hit miss lower upper occupancy range
  exact {
    resolution := resolution
    hit := hit.symm
    miss := miss.symm
    lower := lower.symm
    upper := upper.symm
    occupancy := occupancy.symm
    range := range }

theorem bounded_of_stores {params : EngineParams}
    (settled : ∀ field ∈ schema.fields, field.Stores (field.get params) (field.get params))
    (sound : breach? params = none) : params.Bounded := by
  have limited := limited_of_stores settled
  -- Both thresholds are numbers, since each of them keeps a limit.
  have numbers := And.intro (Decimal.isNaN_of_le limited.lower.2).1
    (Decimal.isNaN_of_le limited.upper.2).1
  exact {
    toLimited := limited
    thresholds := (Decimal.le_iff_not_lt _ _).mpr
      ⟨((breach?_eq_none_iff params).mp sound).1, numbers⟩ }

end EngineParams

/-! ## The manager's limits -/

/-- The limits of the manager's parameters. -/
structure ManagerParams.Bounded (params : ManagerParams) : Prop where
  frame : params.worldFrame ≠ ""
  width : 0 < params.fullImageWidth
  height : 0 < params.fullImageHeight
  timeout : 0.0 < params.lookupTimeout
  engine : params.engine.Bounded

namespace ManagerParams

theorem pos_of_readPositive {number stored : Int}
    (read : readPositive (.int number) = .ok stored) : 0 < number := by
  change (if 0 < number then Except.ok number else Except.error Refusal.notAbove) = _ at read
  split at read
  next positive => exact positive
  next => cases read

theorem ne_empty_of_readText {content stored : String}
    (read : readText 1 (.text content) = .ok stored) : content ≠ "" := by
  rintro rfl
  cases read

theorem Settled.bounded {params : ManagerParams} (settled : params.Settled)
    (sound : EngineParams.breach? params.engine = none) : params.Bounded := by
  have own := settled.own
  simp only [ownSchema, ownFields, List.forall_mem_cons] at own
  rcases own with ⟨frame, width, height, -, -, timeout, -⟩
  rcases Field.read_of_simple_stores frame with ⟨_, frame⟩
  rcases Field.read_of_simple_stores width with ⟨_, width⟩
  rcases Field.read_of_simple_stores height with ⟨_, height⟩
  have timeout := Field.admits_of_simple_stores timeout
  exact {
    frame := ne_empty_of_readText frame
    width := pos_of_readPositive width
    height := pos_of_readPositive height
    timeout := by simpa [Limit.admits] using timeout
    engine := EngineParams.bounded_of_stores settled.engine sound }

/--
Accepted parameters keep all limits, and the heights of the shown band are in order
exactly if both of them are numbers.
-/
theorem ofNamespace_bounded {given : Mapping} {params : ManagerParams}
    (accepted : ofNamespace given = .ok params) :
    params.Bounded ∧
      (params.engine.visualizeMinZ ≤ params.engine.visualizeMaxZ ↔
        params.engine.visualizeMinZ.isNaN = false ∧
          params.engine.visualizeMaxZ.isNaN = false) := by
  have sound := breach?_engine accepted
  have band := ((EngineParams.breach?_eq_none_iff params.engine).mp sound).2
  constructor
  · exact (settled_of_accepted accepted).bounded sound
  · rw [Decimal.le_iff_not_lt]
    exact and_iff_right band

/-- The spellings of `coerced` give a range without end, and a ceiling that is no number. -/
theorem coerced_bounded :
    ofNamespace coerced = .ok uncoerced ∧ uncoerced.Bounded ∧
      ¬ uncoerced.engine.visualizeMinZ ≤ uncoerced.engine.visualizeMaxZ := by
  have accepted : ofNamespace coerced = .ok uncoerced := by decide +kernel
  rcases ofNamespace_bounded accepted with ⟨bounded, ordered⟩
  have ceiling : uncoerced.engine.visualizeMaxZ.isNaN = true := by decide +kernel
  refine ⟨accepted, bounded, ?_⟩
  rw [ordered, ceiling]
  simp

/-- A namespace whose only entry gives the floor of the shown band as no number. -/
def floorless : Mapping :=
  [(.text "visualize_min_z", .float (0.0 / 0.0))]

theorem floorless_accepted :
    ¬ ∀ given params, ofNamespace given = .ok params →
      params.engine.visualizeMinZ ≤ params.engine.visualizeMaxZ := by
  intro ordered
  have accepted : ofNamespace floorless =
      .ok { engine := { visualizeMinZ := 0.0 / 0.0 } } := by
    decide +kernel
  have numbers := Decimal.isNaN_of_le (ordered _ _ accepted)
  have floor : (0.0 / 0.0 : Float).isNaN = true := by decide +kernel
  rw [floor] at numbers
  cases numbers.1

end ManagerParams

end MapIngest.Config
