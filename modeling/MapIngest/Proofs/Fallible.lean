import Mathlib.Data.List.Forall2
import MapIngest.Fault.Basic

/-!
# Computations that may fail

A sequence of two computations returns exactly if the first one returns and the
second one returns on what the first one gave, and fails if one of the two fails.  A
sequence of several is taken apart with these equivalences one computation at a time.
A list is converted item by item, and the first item that is not converted decides how
the conversion of the list fails.

A computation refuses a value if it fails with the kind of a wrong value.  A sequence
whose first computation refuses refuses.

A computation that needs something returns exactly if that holds, and otherwise fails
with one of the faults that are expected of it.
-/

namespace MapIngest

variable {α β : Type}

theorem ok_bind (value : α) (next : α → Except Fault β) :
    Except.ok value >>= next = next value := rfl

theorem bind_eq_ok {first : Except Fault α} {next : α → Except Fault β} {value : β} :
    first >>= next = .ok value ↔
      ∃ earlier, first = .ok earlier ∧ next earlier = .ok value := by
  cases first with
  | error fault =>
      constructor
      · intro failed
        cases failed
      · rintro ⟨earlier, returned, -⟩
        cases returned
  | ok earlier =>
      constructor
      · intro returned
        exact ⟨earlier, rfl, returned⟩
      · rintro ⟨same, equal, returned⟩
        cases equal
        exact returned

/-- A sequence fails with its first computation, or with what follows it. -/
theorem bind_eq_error {first : Except Fault α} {next : α → Except Fault β} {fault : Fault} :
    first >>= next = .error fault ↔
      first = .error fault ∨ ∃ earlier, first = .ok earlier ∧ next earlier = .error fault := by
  cases first with
  | error other =>
      constructor
      · intro failed
        exact Or.inl (congrArg Except.error (Except.error.inj failed))
      · rintro (failed | ⟨earlier, returned, -⟩)
        · cases failed
          rfl
        · cases returned
  | ok earlier =>
      constructor
      · intro failed
        exact Or.inr ⟨earlier, rfl, failed⟩
      · rintro (failed | ⟨same, equal, failed⟩)
        · cases failed
        · cases equal
          exact failed

/-- A list is converted exactly if each of its items is. -/
theorem mapM_eq_ok_iff {convert : α → Except Fault β} {items : List α} {results : List β} :
    items.mapM convert = .ok results ↔
      List.Forall₂ (fun item result => convert item = .ok result) items results := by
  induction items generalizing results with
  | nil =>
      rw [List.mapM_nil, List.forall₂_nil_left_iff]
      exact ⟨fun same => (Except.ok.inj same).symm, fun same => congrArg Except.ok same.symm⟩
  | cons item rest ih =>
      rw [List.mapM_cons, bind_eq_ok]
      constructor
      · rintro ⟨result, converted, further⟩
        rcases bind_eq_ok.mp further with ⟨others, returned, same⟩
        rw [← Except.ok.inj same]
        exact .cons converted (ih.mp returned)
      · rintro (_ | ⟨converted, others⟩)
        exact ⟨_, converted, bind_eq_ok.mpr ⟨_, ih.mpr others, rfl⟩⟩

/-- A list is not converted if an item is not, and all items before it are. -/
theorem mapM_eq_error_iff {convert : α → Except Fault β} {items : List α} {fault : Fault} :
    items.mapM convert = .error fault ↔
      ∃ before item after, items = before ++ item :: after ∧
        (∀ earlier ∈ before, ∃ result, convert earlier = .ok result) ∧
        convert item = .error fault := by
  induction items with
  | nil => simp [List.mapM_nil, pure, Except.pure]
  | cons first rest ih =>
      rw [List.mapM_cons, bind_eq_error]
      constructor
      · rintro (failed | ⟨result, converted, further⟩)
        · exact ⟨[], first, rest, rfl, by simp, failed⟩
        · rcases bind_eq_error.mp further with failed | ⟨others, -, returned⟩
          · rcases ih.mp failed with ⟨before, item, after, rfl, earlier, refused⟩
            exact ⟨first :: before, item, after, rfl,
              List.forall_mem_cons.mpr ⟨⟨result, converted⟩, earlier⟩, refused⟩
          · cases returned
      · rintro ⟨_ | ⟨head, before⟩, item, after, split, earlier, refused⟩
        · obtain ⟨rfl, rfl⟩ := List.cons.inj split
          exact Or.inl refused
        · obtain ⟨rfl, rfl⟩ := List.cons.inj split
          rcases List.forall_mem_cons.mp earlier with ⟨⟨result, converted⟩, others⟩
          exact Or.inr ⟨result, converted,
            bind_eq_error.mpr (Or.inl (ih.mpr ⟨before, item, after, rfl, others, refused⟩))⟩

/-- A computation fails with the kind of a wrong value. -/
def Refused (outcome : Except Fault α) : Prop :=
  ∃ fault, outcome = .error fault ∧ fault.kind = .value

theorem Refused.bind {first : Except Fault α} (refused : Refused first)
    (next : α → Except Fault β) : Refused (first >>= next) := by
  rcases refused with ⟨fault, rfl, kind⟩
  exact ⟨fault, rfl, kind⟩

/-- A fault of the kind of a wrong value. -/
def Fault.IsWrongValue (fault : Fault) : Prop :=
  fault.kind = .value

/-- A computation returns if what it needs holds, and fails as expected otherwise. -/
inductive Needs (condition : Prop) (expected : Fault → Prop) : Except Fault α → Prop
  | returned (holds : condition) (value : α) : Needs condition expected (.ok value)
  | failed (lacks : ¬ condition) {fault : Fault} (kind : expected fault) :
      Needs condition expected (.error fault)

namespace Needs

variable {condition condition' : Prop} {expected : Fault → Prop} {first : Except Fault α}

theorem congr (needs : Needs condition expected first) (same : condition ↔ condition') :
    Needs condition' expected first := by
  rwa [← propext same]

theorem isOk_iff (needs : Needs condition expected first) :
    (∃ value, first = .ok value) ↔ condition := by
  cases needs with
  | returned holds value => exact iff_of_true ⟨value, rfl⟩ holds
  | failed lacks kind =>
      refine iff_of_false ?_ lacks
      rintro ⟨value, returned⟩
      cases returned

theorem map (needs : Needs condition expected first) (change : α → β) :
    Needs condition expected (first.map change) := by
  cases needs with
  | returned holds value => exact .returned holds (change value)
  | failed lacks kind => exact .failed lacks kind

/-- Two computations in sequence need what the first and what the second one needs. -/
theorem bind (needs : Needs condition expected first) {next : α → Except Fault β}
    (nexts : ∀ value, first = .ok value → Needs condition' expected (next value)) :
    Needs (condition ∧ condition') expected (first >>= next) := by
  cases needs with
  | returned holds value => exact (nexts value rfl).congr (and_iff_right holds).symm
  | failed lacks kind => exact .failed (fun both => lacks both.1) kind

theorem bind_returned (needs : Needs condition expected first) {next : α → Except Fault β}
    (nexts : ∀ value, first = .ok value → ∃ result, next value = .ok result) :
    Needs condition expected (first >>= next) := by
  have follows : ∀ value, first = .ok value → Needs True expected (next value) := by
    intro value found
    rcases nexts value found with ⟨result, returned⟩
    rw [returned]
    exact .returned trivial result
  exact (needs.bind follows).congr (and_iff_left trivial)

end Needs

end MapIngest
