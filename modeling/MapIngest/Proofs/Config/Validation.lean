import MapIngest.Proofs.Config.Routes

/-!
# Validating the parameters of a node

Validation answers in one of two ways.  It returns the parameters and writes no record,
or it fails with a report and has written one record, which is about that report.

Values of all types are answered in this way, with one exception.  The matrix is taken
apart into its items before anything is validated, and a number, a truth value and a date
have none.  Such a matrix fails with a failure of its own, and no record is written.
-/

namespace MapIngest

namespace Value

/-- A value that is neither null nor has items: a number, a truth value or a date. -/
def IsAtom : Value → Prop
  | .bool _ | .int _ | .float _ | .date _ => True
  | _ => False

theorem items_of_isAtom {value : Value} (atom : value.IsAtom) :
    value.items = refuse (.noItems value.sort) := by
  cases value with
  | list contents => exact atom.elim
  | mapping entries => exact atom.elim
  | scalar content =>
      cases content with
      | null => exact atom.elim
      | text content => exact atom.elim
      | bytes content => exact atom.elim
      | _ => rfl

theorem exists_items {value : Value} (compound : ¬ value.IsAtom) (filled : value ≠ .null) :
    ∃ contents, value.items = .ok contents := by
  cases value with
  | list contents => exact ⟨_, rfl⟩
  | mapping entries => exact ⟨_, rfl⟩
  | scalar content =>
      cases content with
      | null => exact (filled rfl).elim
      | text content => exact ⟨_, rfl⟩
      | bytes content => exact ⟨_, rfl⟩
      | _ => exact (compound trivial).elim

end Value

namespace Config

variable {held gathered : Mapping}

/-- Validation returns without a record, or is refused by a report that is in the record. -/
inductive Answered : Except Fault ManagerParams × List LogRecord → Prop
  | returned (params : ManagerParams) : Answered (.ok params, [])
  | refused (report : Report) : Answered (.error (.invalid report), [refusalRecord report])

/-- The node holds a matrix that cannot be taken apart. -/
def HoldsAtom (held : Mapping) : Prop :=
  ∃ value, held.named? ManagerParams.matrixField.name = some value ∧ value.IsAtom

/-! ## Gathering -/

/-- Of all values that a node holds, only the matrix can fail to be taken. -/
theorem heldValue?_eq_error {name : String} {fault : Fault}
    (failed : heldValue? held name = .error fault) :
    name = ManagerParams.matrixField.name ∧ ∃ value, held.named? name = some value ∧
      value.IsAtom ∧ fault = .conversion (.noItems value.sort) := by
  rw [heldValue?] at failed
  split at failed
  · cases failed
  · cases failed
  next value filled found =>
    split at failed
    next matrix =>
      refine ⟨matrix, value, found, ?_⟩
      by_cases atom : value.IsAtom
      · rw [Value.items_of_isAtom atom] at failed
        exact ⟨atom, (Except.error.inj failed).symm⟩
      · rcases Value.exists_items atom filled with ⟨contents, taken⟩
        rw [taken] at failed
        cases failed
    next => cases failed

theorem heldValue?_of_isAtom {value : Value}
    (found : held.named? ManagerParams.matrixField.name = some value) (atom : value.IsAtom) :
    heldValue? held ManagerParams.matrixField.name =
      .error (.conversion (.noItems value.sort)) := by
  rw [heldValue?, found]
  split
  next absent => cases absent
  next null =>
    obtain rfl := Option.some.inj null
    exact atom.elim
  next equal =>
    obtain rfl := Option.some.inj equal
    rw [if_pos rfl, Value.items_of_isAtom atom]
    rfl

/-- Gathering fails exactly if the matrix cannot be taken apart. -/
theorem gather_of_isAtom {value : Value}
    (found : held.named? ManagerParams.matrixField.name = some value) (atom : value.IsAtom) :
    gather held ManagerParams.names = .error (.conversion (.noItems value.sort)) := by
  cases done : gather held ManagerParams.names with
  | ok gathered =>
      have taken := matrix_gathered done
      rw [heldValue?_of_isAtom found atom] at taken
      cases taken
  | error fault =>
      rcases heldValue?_of_gather_error done with ⟨name, -, failed⟩
      rcases heldValue?_eq_error failed with ⟨rfl, other, same, -, rfl⟩
      rw [found, Option.some.injEq] at same
      rw [same]

theorem exists_gathered (whole : ¬ HoldsAtom held) :
    ∃ gathered, gather held ManagerParams.names = .ok gathered := by
  cases done : gather held ManagerParams.names with
  | ok gathered => exact ⟨gathered, rfl⟩
  | error fault =>
      rcases heldValue?_of_gather_error done with ⟨name, -, failed⟩
      rcases heldValue?_eq_error failed with ⟨rfl, value, found, atom, -⟩
      exact (whole ⟨value, found, atom⟩).elim

theorem flat_of_gather (done : gather held ManagerParams.names = .ok gathered) :
    IsFlat gathered where
  textual := (named?_gather done).1
  known name := ((named?_gather done).2 name).2

/-- A matrix that was gathered is a list. -/
theorem measured_of_gather (done : gather held ManagerParams.names = .ok gathered) :
    Measured gathered := by
  intro value found
  have taken := matrix_gathered done
  rw [found, heldValue?] at taken
  split at taken
  · cases taken
  · cases taken
  next other _ _ =>
    rw [if_pos rfl] at taken
    cases items : other.items with
    | error fault =>
        rw [items] at taken
        cases taken
    | ok contents =>
        rw [items] at taken
        cases taken
        exact Or.inr ⟨contents.length, rfl⟩

/-! ## Answers -/

theorem validate_of_gather_error {fault : Fault}
    (failed : gather held ManagerParams.names = .error fault) :
    validate held = (.error fault, []) := by
  rw [validate, failed]

/-- Parameters that were gathered are read without a record, or refused with one. -/
theorem answered_of_gather (done : gather held ManagerParams.names = .ok gathered) :
    Answered (validate held) := by
  rw [validate, done]
  dsimp only
  cases read : ManagerParams.ofNamespace gathered with
  | ok params => exact .returned params
  | error fault =>
      rcases (flat_of_gather done).report_of_ofNamespace (measured_of_gather done) read with
        ⟨report, rfl⟩
      exact .refused report

/--
Validation returns without a record, or writes one record and is refused by the report in
it, exactly if the matrix can be taken apart.  A matrix that cannot be fails as such,
without a record.  In all other cases the outcome is that of the namespace of the values
that are held for the known names.
-/
theorem validate_answered_iff (held : Mapping) :
    (Answered (validate held) ↔ ¬ HoldsAtom held) ∧
      (∀ value, held.named? ManagerParams.matrixField.name = some value → value.IsAtom →
        validate held = (.error (.conversion (.noItems value.sort)), [])) ∧
      (¬ HoldsAtom held → ∃ gathered : Mapping, gathered.Textual ∧
        (∀ name, (name ∈ ManagerParams.names →
            heldValue? held name = .ok (gathered.named? name)) ∧
          (name ∉ ManagerParams.names → gathered.named? name = none)) ∧
        (validate held).1 = ManagerParams.ofNamespace gathered) := by
  have escapes : ∀ value, held.named? ManagerParams.matrixField.name = some value →
      value.IsAtom → validate held = (.error (.conversion (.noItems value.sort)), []) :=
    fun _ found atom => validate_of_gather_error (gather_of_isAtom found atom)
  refine ⟨⟨?_, ?_⟩, escapes, ?_⟩
  · rintro answered ⟨value, found, atom⟩
    rw [escapes value found atom] at answered
    cases answered
  · intro whole
    rcases exists_gathered whole with ⟨gathered, done⟩
    exact answered_of_gather done
  · intro whole
    rcases exists_gathered whole with ⟨gathered, done⟩
    rcases named?_gather done with ⟨textual, found⟩
    refine ⟨gathered, textual, found, ?_⟩
    rw [validate_eq, done, ok_bind]

/-- A node whose matrix is a number. -/
def numberMatrix : Mapping :=
  [(.text "Q", .int 5)]

/-- Not every set of parameters is answered. -/
theorem numberMatrix_unanswered : ¬ ∀ held, Answered (validate held) := by
  intro answers
  have answered := answers numberMatrix
  have escaped : validate numberMatrix = (.error (.conversion (.noItems "int")), []) := rfl
  rw [escaped] at answered
  cases answered

end Config

end MapIngest
