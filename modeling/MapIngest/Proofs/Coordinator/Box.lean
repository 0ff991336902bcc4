import MapIngest.Proofs.Coordinator.Entry
import MapIngest.Proofs.Fallible
import MapIngest.Proofs.Tensor.Reading

/-!
# Boxes that are marked

A box is given by two vectors, each of which is a message with three axes or a sequence
of numbers in any regular nesting.  A box fits if both of them flatten to three finite
doubles and no component of the size is negative.

The engine is asked once about a box that fits, and not about any other.  The result is
true if the engine is asked and does not fail.  It is false, with one report, if the box
does not fit or the engine fails.  There is one exception: an integer beyond the range
of doubles, met before anything that is not a number, is neither read nor refused, and
its failure is passed on.
-/

namespace MapIngest

open MapIngest.Geometry

/-! ## Vectors -/

namespace Value

/-- What the components of a vector are taken from: its three axes, or the value itself. -/
inductive Presents (value : Value) : Value → Prop
  | axes {x y z : Value} (hasX : value.field? "x" = some x) (hasY : value.field? "y" = some y)
      (hasZ : value.field? "z" = some z) : Presents value (.list [x, y, z])
  | itself {axis : String} (known : axis ∈ axisNames) (lacks : value.field? axis = none) :
      Presents value value

theorem presents_componentsOf (value : Value) : value.Presents (componentsOf value) := by
  rw [componentsOf]
  cases hasX : value.field? "x" with
  | none => simpa [axisNames, hasX] using Presents.itself (by decide) hasX
  | some x =>
      cases hasY : value.field? "y" with
      | none => simpa [axisNames, hasX, hasY] using Presents.itself (by decide) hasY
      | some y =>
          cases hasZ : value.field? "z" with
          | none => simpa [axisNames, hasX, hasY, hasZ] using Presents.itself (by decide) hasZ
          | some z => simpa [axisNames, hasX, hasY, hasZ] using Presents.axes hasX hasY hasZ

theorem presents_iff {value components : Value} :
    value.Presents components ↔ componentsOf value = components := by
  constructor
  · intro presents
    cases presents with
    | axes hasX hasY hasZ => simp [componentsOf, axisNames, hasX, hasY, hasZ]
    | itself known lacks =>
        have missing : axisNames.mapM value.field? = none := by
          simp only [axisNames, List.mem_cons, List.not_mem_nil, or_false] at known
          rcases known with rfl | rfl | rfl <;>
            cases hasX : value.field? "x" <;> cases hasY : value.field? "y" <;>
              simp_all [axisNames]
        rw [componentsOf, missing]
  · rintro rfl
    exact value.presents_componentsOf

/-- A value flattens to the three components of a vector, all of them finite. -/
structure IsVector (value : Value) (vector : Vec3 Float) : Prop where
  flattens : ∃ components, value.Presents components ∧ components.Flattens vector.toList
  finite : ∀ component ∈ vector.toList, component.isFinite = true

/-- What a vector is taken from is an array, the first unreadable element of which is too large. -/
def OutOfRange (value : Value) : Prop :=
  ∃ components, value.Presents components ∧ components.Overflows

end Value

theorem Geometry.Vec3.ofList?_eq_some_iff {α : Type} {elements : List α} {vector : Vec3 α} :
    Vec3.ofList? elements = some vector ↔ elements = vector.toList := by
  constructor
  · intro found
    match elements, found with
    | [x, y, z], found =>
        cases found
        rfl
  · rintro rfl
    exact Vec3.ofList?_toList vector

theorem Geometry.Vec3.isFinite_iff {vector : Vec3 Float} :
    vector.isFinite = true ↔ ∀ component ∈ vector.toList, component.isFinite = true := by
  simp [Vec3.isFinite, Vec3.toList, and_assoc]

theorem Geometry.Vec3.hasNegative_eq_false_iff {vector : Vec3 Float} :
    vector.hasNegative = false ↔ ∀ component ∈ vector.toList, ¬ component < 0.0 := by
  simp [Vec3.hasNegative, Vec3.toList, and_assoc]

/-- A value is read as a vector exactly if it is one. -/
theorem readComponents_eq_some_iff {value : Value} {vector : Vec3 Float} :
    readComponents value = .ok (some vector) ↔ value.IsVector vector := by
  rw [readComponents]
  constructor
  · intro read
    split at read
    next tensor returned =>
      rw [Except.ok.injEq, Option.filter_eq_some_iff] at read
      obtain ⟨three, finite⟩ := read
      have elements := Tensor.elements_ofValue_iff.mp ⟨tensor, returned, rfl⟩
      rw [Vec3.ofList?_eq_some_iff.mp three] at elements
      exact ⟨⟨_, value.presents_componentsOf, elements⟩, Vec3.isFinite_iff.mp finite⟩
    next => split at read <;> cases read
  · rintro ⟨⟨components, presents, flattens⟩, finite⟩
    obtain rfl := Value.presents_iff.mp presents
    obtain ⟨tensor, returned, elements⟩ := Tensor.elements_ofValue_iff.mpr flattens
    rw [returned]
    dsimp only
    rw [elements, Vec3.ofList?_toList, Option.filter_some, if_pos (Vec3.isFinite_iff.mpr finite)]

/-- A value that is not out of range is read as a vector or as none. -/
theorem readComponents_of_inRange {value : Value} (inRange : ¬ value.OutOfRange) :
    ∃ vector?, readComponents value = .ok vector? := by
  rw [readComponents]
  split
  next => exact ⟨_, rfl⟩
  next fault refused =>
    rcases Tensor.ofValue_refusal refused with ⟨overflows, -⟩ | kind | kind
    · exact (inRange ⟨_, value.presents_componentsOf, overflows⟩).elim
    · rw [if_pos (Or.inl kind)]
      exact ⟨none, rfl⟩
    · rw [if_pos (Or.inr (by rw [kind]; rfl))]
      exact ⟨none, rfl⟩

theorem readComponents_of_outOfRange {value : Value} (outOfRange : value.OutOfRange) :
    readComponents value = .error (.conversion .numberRange) := by
  obtain ⟨components, presents, overflows⟩ := outOfRange
  obtain rfl := Value.presents_iff.mp presents
  rw [readComponents, Tensor.ofValue_of_overflows overflows]
  rfl

theorem Value.IsVector.inRange {value : Value} {vector : Vec3 Float}
    (isVector : value.IsVector vector) : ¬ value.OutOfRange := by
  intro outOfRange
  have read := readComponents_eq_some_iff.mpr isVector
  rw [readComponents_of_outOfRange outOfRange] at read
  cases read

/-- A value in range that is no vector is read as none. -/
theorem readComponents_eq_none {value : Value} (inRange : ¬ value.OutOfRange)
    (other : ∀ vector, ¬ value.IsVector vector) : readComponents value = .ok none := by
  obtain ⟨vector?, read⟩ := readComponents_of_inRange inRange
  cases vector? with
  | none => exact read
  | some vector => exact (other vector (readComponents_eq_some_iff.mp read)).elim

/-! ## Boxes -/

/-- Two values give a box: its centre and its extent, no component of which is negative. -/
structure BoxFits (centre size : Value) (middle extent : Vec3 Float) : Prop where
  centre : centre.IsVector middle
  size : size.IsVector extent
  nonnegative : ∀ component ∈ extent.toList, ¬ component < 0.0

/-- Ask an engine to mark a box as occupied or as free. -/
def MapEngine.mark {ε : Type} (engine : MapEngine ε) (occupied : Bool)
    (middle extent : Vec3 Float) : Call ε Unit :=
  if occupied then engine.setOccupied middle extent else engine.setFree middle extent

/-- An engine is not interrupted while it marks a box; it may fail in any other way. -/
def MapEngine.MarksUninterrupted {ε : Type} (engine : MapEngine ε) : Prop :=
  ∀ occupied middle extent state fault,
    (engine.mark occupied middle extent state).1 = .error fault → fault.kind ≠ .interrupt

/-- The question to mark a box, with its answer. -/
def EngineExchange.marking (occupied : Bool) (middle extent : Vec3 Float)
    (answer : Except Fault Unit) : EngineExchange :=
  if occupied then .setOccupied middle extent answer else .setFree middle extent answer

theorem EngineExchange.answer_of_marking {occupied : Bool}
    {middle extent middle' extent' : Vec3 Float} {answer answer' : Except Fault Unit}
    (same : marking occupied middle extent answer = marking occupied middle' extent' answer') :
    answer = answer' := by
  cases occupied <;> cases same <;> rfl

theorem MapEngine.recorded_mark {ε : Type} (engine : MapEngine ε) (occupied : Bool)
    (middle extent : Vec3 Float) :
    engine.recorded.mark occupied middle extent =
      Recorded.call (.marking occupied middle extent) (engine.mark occupied middle extent) := by
  cases occupied <;> rfl

namespace Coordinator

variable {ε τ π : Type}

/-- The result that an answer of the engine comes to: only an interruption is passed on. -/
def boxResult (answer : Except Fault Unit) : Except Fault Bool :=
  match answer with
  | .ok _ => .ok true
  | .error fault => if fault.kind = .interrupt then .error fault else .ok false

/-- The report on an answer of the engine. -/
def boxRecords (answer : Except Fault Unit) : List LogRecord :=
  match answer with
  | .ok _ => []
  | .error fault => if fault.kind = .interrupt then [] else [boxFailed fault]

theorem boxResult_eq_true_iff {answer : Except Fault Unit} :
    boxResult answer = .ok true ↔ answer = .ok () := by
  cases answer with
  | ok done => simp [boxResult]
  | error fault =>
      rw [boxResult]
      split <;> simp

theorem boxRecords_of_true {answer : Except Fault Unit} (done : boxResult answer = .ok true) :
    boxRecords answer = [] := by
  rw [boxResult_eq_true_iff.mp done]
  rfl

theorem boxRecords_of_false {answer : Except Fault Unit} (failed : boxResult answer = .ok false) :
    ∃ fault, boxRecords answer = [boxFailed fault] := by
  cases answer with
  | ok done => cases failed
  | error fault =>
      rw [boxResult] at failed
      split at failed
      next => cases failed
      next kind => exact ⟨fault, by rw [boxRecords, if_neg kind]⟩

theorem run_markBox (call : Call ε Unit) (coordinator : Coordinator ε τ π) :
    (markBox call).run coordinator =
      ⟨boxResult (call coordinator.engine).1,
        { coordinator with engine := (call coordinator.engine).2 },
        boxRecords (call coordinator.engine).1⟩ := by
  cases answer : (call coordinator.engine).1 with
  | ok done => simp [markBox, tryEngine, askEngine, answer, boxResult, boxRecords]
  | error fault =>
      by_cases interrupted : fault.kind = .interrupt <;>
        simp [markBox, tryEngine, askEngine, answer, boxResult, boxRecords, interrupted,
          Except.map]

variable (components : Components ε τ π) {centre size : Value} (occupied : Bool)
  (coordinator : Coordinator ε τ π)

/-- The engine is asked to mark a box that fits. -/
theorem run_setBox_of_fits {middle extent : Vec3 Float}
    (fits : BoxFits centre size middle extent) :
    (setBox components centre size occupied).run coordinator =
      (markBox (components.engine.mark occupied middle extent)).run coordinator := by
  have nonnegative := Vec3.hasNegative_eq_false_iff.mpr fits.nonnegative
  simp only [setBox, readComponents_eq_some_iff.mpr fits.centre,
    readComponents_eq_some_iff.mpr fits.size, Act.run_bind, Act.run_ofExcept, Act.follow_ok,
    nonnegative, Bool.false_eq_true, if_false, List.nil_append]
  cases occupied <;> rfl

/-- A box that does not fit is refused with one report, and nothing else happens. -/
theorem run_setBox_of_unfit (centreInRange : ¬ centre.OutOfRange)
    (sizeInRange : ¬ size.OutOfRange)
    (unfit : ∀ middle extent, ¬ BoxFits centre size middle extent) :
    ∃ text, (setBox components centre size occupied).run coordinator =
      ⟨.ok false, coordinator, [.error text]⟩ := by
  obtain ⟨middle?, centreRead⟩ := readComponents_of_inRange centreInRange
  obtain ⟨extent?, sizeRead⟩ := readComponents_of_inRange sizeInRange
  simp only [setBox, centreRead, sizeRead, Act.run_bind, Act.run_ofExcept, Act.follow_ok,
    List.nil_append]
  cases middle? with
  | none => exact ⟨_, rfl⟩
  | some middle =>
      cases extent? with
      | none => exact ⟨_, rfl⟩
      | some extent =>
          dsimp only
          cases negative : extent.hasNegative with
          | true => exact ⟨_, rfl⟩
          | false =>
              exact (unfit middle extent ⟨readComponents_eq_some_iff.mp centreRead,
                readComponents_eq_some_iff.mp sizeRead,
                Vec3.hasNegative_eq_false_iff.mp negative⟩).elim

/-- A box whose vectors are not both read is refused, and nothing else happens. -/
theorem run_setBox_of_unreadable (centreInRange : ¬ centre.OutOfRange)
    (sizeInRange : ¬ size.OutOfRange)
    (unreadable : (∀ middle, ¬ centre.IsVector middle) ∨ ∀ extent, ¬ size.IsVector extent) :
    (setBox components centre size occupied).run coordinator =
      ⟨.ok false, coordinator, [unreadableBox]⟩ := by
  rcases unreadable with other | other
  · obtain ⟨extent?, sizeRead⟩ := readComponents_of_inRange sizeInRange
    simp [setBox, readComponents_eq_none centreInRange other, sizeRead, Except.map]
  · obtain ⟨middle?, centreRead⟩ := readComponents_of_inRange centreInRange
    cases middle? <;>
      simp [setBox, centreRead, readComponents_eq_none sizeInRange other, Except.map]

/-- The failure of a vector that is out of range is passed on, and nothing else happens. -/
theorem run_setBox_of_outOfRange (outOfRange : centre.OutOfRange ∨ size.OutOfRange) :
    (setBox components centre size occupied).run coordinator =
      ⟨.error (.conversion .numberRange), coordinator, []⟩ := by
  by_cases first : centre.OutOfRange
  · simp [setBox, readComponents_of_outOfRange first]
  · have second := outOfRange.resolve_left first
    obtain ⟨middle?, centreRead⟩ := readComponents_of_inRange first
    simp [setBox, centreRead, readComponents_of_outOfRange second]

/-! ## What is decided about a box -/

section Recorded

variable (components : Components ε τ π) {centre size : Value} (occupied : Bool)
  (coordinator : RecordedCoordinator ε τ π)

/-- The engine is asked once about a box that fits, and its answer decides. -/
theorem setBox_of_fits {middle extent : Vec3 Float}
    (fits : BoxFits centre size middle extent) :
    ∃ answer,
      ((setBox components.recorded centre size occupied).run coordinator).result =
        boxResult answer ∧
      ((setBox components.recorded centre size occupied).run coordinator).logs =
        boxRecords answer ∧
      ((setBox components.recorded centre size occupied).run coordinator).state.engine.transcript =
        coordinator.engine.transcript ++ [.marking occupied middle extent answer] := by
  refine ⟨(components.engine.mark occupied middle extent coordinator.engine.inner).1, ?_⟩
  rw [run_setBox_of_fits components.recorded occupied coordinator fits, run_markBox,
    Components.recorded, MapEngine.recorded_mark]
  exact ⟨rfl, rfl, rfl⟩

/--
If no vector is out of range, then the result is true exactly if the box fits and the
engine, asked to mark it, does not fail.  The engine is asked once about a box that fits,
with the vectors as they are read, and not at all about any other box, the result then
being false.  A true result goes without a report, and a false one with one report.
-/
theorem box_marked_iff_fits (centreInRange : ¬ centre.OutOfRange)
    (sizeInRange : ¬ size.OutOfRange) :
    let outcome := (setBox components.recorded centre size occupied).run coordinator
    let before := coordinator.engine.transcript
    let after := outcome.state.engine.transcript
    (outcome.result = .ok true ↔
        ∃ middle extent, BoxFits centre size middle extent ∧
          after = before ++ [.marking occupied middle extent (.ok ())]) ∧
      (∀ middle extent, BoxFits centre size middle extent →
        ∃ answer, outcome.result = boxResult answer ∧
          after = before ++ [.marking occupied middle extent answer]) ∧
      ((∀ middle extent, ¬ BoxFits centre size middle extent) →
        after = before ∧ outcome.result = .ok false) ∧
      (outcome.result = .ok true → outcome.logs = []) ∧
      (outcome.result = .ok false → ∃ text, outcome.logs = [.error text]) := by
  intro outcome before after
  by_cases fit : ∃ middle extent, BoxFits centre size middle extent
  · obtain ⟨middle, extent, fits⟩ := fit
    -- One answer of the engine decides on the result and on the report.
    obtain ⟨answer, result, logs, asked⟩ :=
      setBox_of_fits components occupied coordinator fits
    refine ⟨⟨fun marked => ?_, ?_⟩, fun middle extent fits => ?_, fun unfit => ?_,
      fun marked => ?_, fun failed => ?_⟩
    · refine ⟨middle, extent, fits, ?_⟩
      rw [← boxResult_eq_true_iff.mp (result.symm.trans marked)]
      exact asked
    · rintro ⟨other, otherExtent, -, done⟩
      -- The transcript ends with one exchange, so the two answers are the same.
      have same := List.append_cancel_left (asked.symm.trans done)
      rw [List.cons.injEq] at same
      exact result.trans (boxResult_eq_true_iff.mpr (EngineExchange.answer_of_marking same.1))
    · obtain ⟨answer, result, -, asked⟩ := setBox_of_fits components occupied coordinator fits
      exact ⟨answer, result, asked⟩
    · exact (unfit middle extent fits).elim
    · exact logs.trans (boxRecords_of_true (result.symm.trans marked))
    · obtain ⟨fault, report⟩ := boxRecords_of_false (result.symm.trans failed)
      exact ⟨_, logs.trans report⟩
  · simp only [not_exists] at fit
    obtain ⟨text, run⟩ :=
      run_setBox_of_unfit components.recorded occupied coordinator centreInRange sizeInRange fit
    have refused : outcome.result = .ok false := congrArg Outcome.result run
    have unasked : after = before :=
      congrArg (fun outcome => outcome.state.engine.transcript) run
    refine ⟨⟨fun marked => ?_, ?_⟩, fun middle extent fits => ?_, fun _ => ⟨unasked, refused⟩,
      fun marked => ?_, fun _ => ⟨text, congrArg Outcome.logs run⟩⟩
    · rw [refused] at marked
      cases marked
    · rintro ⟨middle, extent, fits, -⟩
      exact (fit middle extent fits).elim
    · exact (fit middle extent fits).elim
    · rw [refused] at marked
      cases marked

end Recorded

/-- Three numbers in an inner list, as a text with an underscore, a truth value and a double. -/
def nestedCentre : Value :=
  .list [.list [.text "1_0", .bool true, .float 2.5]]

/-- Three axes, one of them a text that reads as the negative zero. -/
def flatExtent : Value :=
  .mapping [(.text "x", .bool false), (.text "y", .int 3), (.text "z", .text " -0.0")]

theorem flatBox_fits : BoxFits nestedCentre flatExtent ⟨10.0, 1.0, 2.5⟩ ⟨0.0, 3.0, -0.0⟩ where
  centre := readComponents_eq_some_iff.mp (by decide +kernel)
  size := readComponents_eq_some_iff.mp (by decide +kernel)
  nonnegative := Vec3.hasNegative_eq_false_iff.mp (by decide +kernel)

/-- A box without height, given in two ways, is marked by an engine that answers everything. -/
theorem flatBox_marked :
    ¬ nestedCentre.OutOfRange ∧ ¬ flatExtent.OutOfRange ∧
      ((setBox Components.obliging.recorded nestedCentre flatExtent true).run
        (begun {} () () ())).result = .ok true := by
  have centreInRange := flatBox_fits.centre.inRange
  have sizeInRange := flatBox_fits.size.inRange
  refine ⟨centreInRange, sizeInRange, ?_⟩
  refine (box_marked_iff_fits Components.obliging true (begun {} () () ()) centreInRange
    sizeInRange).1.mpr ⟨_, _, flatBox_fits, ?_⟩
  rw [run_setBox_of_fits _ _ _ flatBox_fits, run_markBox]
  rfl

/-! ## What is answered about a box -/

section Answered

variable (components : Components ε τ π) (centre size : Value) (occupied : Bool)
  (coordinator : Coordinator ε τ π)

theorem boxResult_of_uninterrupted {answer : Except Fault Unit}
    (uninterrupted : ∀ fault, answer = .error fault → fault.kind ≠ .interrupt) :
    ∃ marked, boxResult answer = .ok marked := by
  cases answer with
  | ok done => exact ⟨true, rfl⟩
  | error fault => exact ⟨false, by rw [boxResult, if_neg (uninterrupted fault rfl)]⟩

/-- A box in range is answered with true or with false. -/
theorem setBox_answered (uninterrupted : components.engine.MarksUninterrupted)
    (centreInRange : ¬ centre.OutOfRange) (sizeInRange : ¬ size.OutOfRange) :
    ∃ marked, ((setBox components centre size occupied).run coordinator).result = .ok marked := by
  by_cases fit : ∃ middle extent, BoxFits centre size middle extent
  · obtain ⟨middle, extent, fits⟩ := fit
    rw [run_setBox_of_fits components occupied coordinator fits, run_markBox]
    exact boxResult_of_uninterrupted (uninterrupted occupied middle extent coordinator.engine)
  · simp only [not_exists] at fit
    obtain ⟨text, run⟩ :=
      run_setBox_of_unfit components occupied coordinator centreInRange sizeInRange fit
    exact ⟨false, congrArg Outcome.result run⟩

/--
With an engine that is not interrupted, the result is true or false exactly if neither
vector is out of range.  The failure of a vector that is out of range is passed on
without a report, and the engine is not asked.  If both vectors are in range and one of
them is not three finite doubles, then the result is false, with one report, and the
engine is not asked.
-/
theorem box_answered_iff_inRange (uninterrupted : components.engine.MarksUninterrupted) :
    let outcome := (setBox components centre size occupied).run coordinator
    ((∃ marked, outcome.result = .ok marked) ↔ ¬ centre.OutOfRange ∧ ¬ size.OutOfRange) ∧
      (centre.OutOfRange ∨ size.OutOfRange →
        outcome = ⟨.error (.conversion .numberRange), coordinator, []⟩) ∧
      (¬ centre.OutOfRange → ¬ size.OutOfRange →
        (∀ middle, ¬ centre.IsVector middle) ∨ (∀ extent, ¬ size.IsVector extent) →
        outcome = ⟨.ok false, coordinator, [unreadableBox]⟩) := by
  intro outcome
  have refused : centre.OutOfRange ∨ size.OutOfRange →
      outcome = ⟨.error (.conversion .numberRange), coordinator, []⟩ :=
    run_setBox_of_outOfRange components occupied coordinator
  refine ⟨⟨?_, fun inRange => ?_⟩, refused,
    run_setBox_of_unreadable components occupied coordinator⟩
  · rintro ⟨marked, answered⟩
    rw [← not_or]
    intro outOfRange
    rw [refused outOfRange] at answered
    cases answered
  · exact setBox_answered components centre size occupied coordinator uninterrupted
      inRange.1 inRange.2

end Answered

/-- An engine that fails to mark any box as occupied. -/
def engineWithoutOccupied : MapEngine Unit :=
  { MapEngine.blank with setOccupied := fun _ _ _ => (.error (.raised .runtime "locked"), ()) }

theorem engineWithoutOccupied_marksUninterrupted : engineWithoutOccupied.MarksUninterrupted := by
  intro occupied middle extent state fault failed
  cases occupied <;> cases failed
  decide

/-- A box that fits is answered although the engine fails. -/
theorem flatBox_answered :
    engineWithoutOccupied.MarksUninterrupted ∧
      ∃ marked, ((setBox { Components.obliging with engine := engineWithoutOccupied }
        nestedCentre flatExtent true).run (start {} () () ()).state).result = .ok marked := by
  refine ⟨engineWithoutOccupied_marksUninterrupted, ?_⟩
  exact (box_answered_iff_inRange { Components.obliging with engine := engineWithoutOccupied }
    nestedCentre flatExtent true (start {} () () ()).state
    engineWithoutOccupied_marksUninterrupted).1.mpr
      ⟨flatBox_fits.centre.inRange, flatBox_fits.size.inRange⟩

/-- Three integers are out of range if the first of them is. -/
theorem outOfRange_of_first {first : Int} (large : 2 ^ 1024 - 2 ^ 970 ≤ first.natAbs)
    (second third : Int) : (Value.list [.int first, .int second, .int third]).OutOfRange := by
  refine ⟨_, .itself (by decide : "x" ∈ axisNames) rfl, ⟨[3], by decide, _, rfl, rfl, ?_⟩,
    [], _, _, rfl, nofun, first, rfl, large⟩
  intro item member items
  simp only [List.mem_cons, List.not_mem_nil, or_false] at member
  rcases member with rfl | rfl | rfl <;> exact nofun

/-- A centre whose first component is the least power of two beyond the range of doubles. -/
def hugeCentre : Value :=
  .list [.int (2 ^ 1024), .int 0, .int 0]

theorem hugeCentre_outOfRange : hugeCentre.OutOfRange :=
  outOfRange_of_first (by decide +kernel) 0 0

/-- A centre with an integer beyond the range of doubles is not answered. -/
theorem hugeCentre_unanswered :
    ¬ ∃ marked, ((setBox Components.obliging hugeCentre (.list [.int 1, .int 1, .int 1]) true).run
      (start {} () () ()).state).result = .ok marked := by
  rw [run_setBox_of_outOfRange _ _ _ (Or.inl hugeCentre_outOfRange)]
  rintro ⟨marked, answered⟩
  cases answered

end Coordinator

end MapIngest
