import Mathlib.Data.List.Induction
import MapIngest.Proofs.Act

/-!
# Runs

A run feeds inputs to a state, one action for each input.  An action that fails
leaves the state that it had reached, and the next input goes on from there.

A visit is what one input found and what came of it.  The visits of a run say
everything about it that can be seen from outside.  A property of all runs is
proved once, by `after_induction`: it holds before the first input, and every
further input keeps it.

What a run gathers is known from what each visit adds.  If every visit adds an
item or nothing to a list that the state keeps, the list is in the end the
items of all visits in order; and if every visit raises a count by one or
leaves it, the count is in the end the number of visits that raise it.  Both
may use a property that every admitted input keeps.

A run shows no more than its visible inputs make of a view: if the hidden
inputs keep the view and the visible ones respect it, then all hidden inputs can
be left out, and neither the view nor what the visible inputs come to changes.
Inputs that never change the state can be left out of a run, and all other visits
are the same.
-/

namespace MapIngest

/-- What one input of a run found, and what came of it. -/
structure Visit (σ ι α : Type) where
  before : σ
  input : ι
  outcome : Outcome σ α

namespace Run

variable {σ ι α : Type}

/-- The state after a sequence of inputs. -/
def after (act : ι → Act σ α) (start : σ) (inputs : List ι) : σ :=
  inputs.foldl (fun state input => ((act input).run state).state) start

/-- The visits of a sequence of inputs, in order. -/
def visits (act : ι → Act σ α) : (start : σ) → List ι → List (Visit σ ι α)
  | _, [] => []
  | start, input :: rest =>
    ⟨start, input, (act input).run start⟩ :: visits act ((act input).run start).state rest

/-- The records of a sequence of inputs, in order. -/
def logs (act : ι → Act σ α) (start : σ) (inputs : List ι) : List LogRecord :=
  (visits act start inputs).flatMap fun visit => visit.outcome.logs

variable (act : ι → Act σ α)

@[simp]
theorem after_nil (start : σ) : after act start [] = start := rfl

@[simp]
theorem after_cons (start : σ) (input : ι) (rest : List ι) :
    after act start (input :: rest) = after act ((act input).run start).state rest := rfl

theorem after_append (start : σ) (first second : List ι) :
    after act start (first ++ second) = after act (after act start first) second := by
  simp [after]

theorem after_concat (start : σ) (inputs : List ι) (input : ι) :
    after act start (inputs ++ [input]) =
      ((act input).run (after act start inputs)).state := by
  simp [after_append]

@[simp]
theorem visits_nil (start : σ) : visits act start [] = [] := rfl

@[simp]
theorem logs_nil (start : σ) : logs act start [] = [] := rfl

@[simp]
theorem logs_cons (start : σ) (input : ι) (rest : List ι) :
    logs act start (input :: rest) =
      ((act input).run start).logs ++ logs act ((act input).run start).state rest := by
  simp [logs, visits]

/-- Every input of a run is visited, in its turn. -/
@[simp]
theorem map_input_visits (start : σ) (inputs : List ι) :
    (visits act start inputs).map Visit.input = inputs := by
  induction inputs generalizing start with
  | nil => rfl
  | cons input rest ih => simp [visits, ih]

theorem visits_concat (start : σ) (inputs : List ι) (input : ι) :
    visits act start (inputs ++ [input]) =
      visits act start inputs ++ [⟨after act start inputs, input,
        (act input).run (after act start inputs)⟩] := by
  induction inputs generalizing start with
  | nil => rfl
  | cons first rest ih => rw [List.cons_append, visits, ih, visits, List.cons_append, after_cons]

/-- A property of the inputs so far and the state they led to holds after every run. -/
theorem after_induction (Holds : List ι → σ → Prop) {start : σ}
    (initial : Holds [] start)
    (step : ∀ seen state input, Holds seen state →
      Holds (seen ++ [input]) ((act input).run state).state)
    (inputs : List ι) : Holds inputs (after act start inputs) := by
  induction inputs using List.reverseRecOn with
  | nil => exact initial
  | append_singleton seen input ih =>
      rw [after_concat]
      exact step seen _ input ih

/-! ## What a run gathers -/

section Gathering

variable {act} {Admitted : ι → Prop} {Holds : σ → Prop}

/-- What holds of the visit of every admitted input holds of every visit of a run. -/
theorem forall_visits {Claim : Visit σ ι α → Prop}
    (keeps : ∀ state input, Admitted input → Holds state →
      Holds ((act input).run state).state)
    (claim : ∀ state input, Admitted input → Holds state →
      Claim ⟨state, input, (act input).run state⟩)
    {start : σ} (initial : Holds start) {inputs : List ι}
    (admitted : ∀ input ∈ inputs, Admitted input) :
    ∀ visit ∈ visits act start inputs, Claim visit := by
  induction inputs generalizing start with
  | nil => simp
  | cons input rest ih =>
      rcases List.forall_mem_cons.mp admitted with ⟨first, others⟩
      intro visit member
      rcases List.mem_cons.mp member with rfl | later
      · exact claim start input first initial
      · exact ih (keeps start input first initial) others visit later

/-- What holds of the visit of every input from every state holds of every visit of a run. -/
theorem forall_visits_of_forall {Claim : Visit σ ι α → Prop}
    (claim : ∀ state input, Claim ⟨state, input, (act input).run state⟩) (start : σ)
    (inputs : List ι) : ∀ visit ∈ visits act start inputs, Claim visit := by
  have always : ∀ (_ : σ) (_ : ι), True → True → True := fun _ _ _ _ => trivial
  exact forall_visits always (fun state input _ _ => claim state input) trivial fun _ _ => trivial

/-- A property that every admitted input keeps holds after every run. -/
theorem holds_after
    (keeps : ∀ state input, Admitted input → Holds state →
      Holds ((act input).run state).state)
    {start : σ} (initial : Holds start) {inputs : List ι}
    (admitted : ∀ input ∈ inputs, Admitted input) : Holds (after act start inputs) := by
  induction inputs generalizing start with
  | nil => exact initial
  | cons input rest ih =>
      rcases List.forall_mem_cons.mp admitted with ⟨first, others⟩
      exact ih (keeps start input first initial) others

/-- A property that inputs keep where they are allowed holds after a run of such inputs. -/
theorem holds_after_visits {Allowed : σ → ι → Prop}
    (keeps : ∀ state input, Allowed state input → Holds state →
      Holds ((act input).run state).state)
    {start : σ} (initial : Holds start) {inputs : List ι}
    (allowed : ∀ visit ∈ visits act start inputs, Allowed visit.before visit.input) :
    Holds (after act start inputs) := by
  induction inputs generalizing start with
  | nil => exact initial
  | cons input rest ih =>
      rcases List.forall_mem_cons.mp allowed with ⟨first, others⟩
      exact ih (keeps start input first initial) others

/-- A list to which every visit adds an item or nothing holds the items of all visits. -/
theorem gathered {κ : Type} (kept : σ → List κ) (item? : Visit σ ι α → Option κ)
    (keeps : ∀ state input, Admitted input → Holds state →
      Holds ((act input).run state).state)
    (adds : ∀ state input, Admitted input → Holds state →
      kept ((act input).run state).state =
        kept state ++ (item? ⟨state, input, (act input).run state⟩).toList)
    {start : σ} (initial : Holds start) {inputs : List ι}
    (admitted : ∀ input ∈ inputs, Admitted input) :
    kept (after act start inputs) =
      kept start ++ (visits act start inputs).filterMap item? := by
  induction inputs generalizing start with
  | nil => simp
  | cons input rest ih =>
      rcases List.forall_mem_cons.mp admitted with ⟨first, others⟩
      rw [after_cons, ih (keeps start input first initial) others,
        adds start input first initial, visits, List.filterMap_cons]
      cases item? ⟨start, input, (act input).run start⟩ <;> simp

/-- A count that a visit raises by one or leaves counts the visits that raise it. -/
theorem counted (count : σ → Int) (raises : Visit σ ι α → Bool)
    (keeps : ∀ state input, Admitted input → Holds state →
      Holds ((act input).run state).state)
    (adds : ∀ state input, Admitted input → Holds state →
      count ((act input).run state).state =
        count state + if raises ⟨state, input, (act input).run state⟩ then 1 else 0)
    {start : σ} (initial : Holds start) {inputs : List ι}
    (admitted : ∀ input ∈ inputs, Admitted input) :
    count (after act start inputs) =
      count start + (visits act start inputs).countP raises := by
  induction inputs generalizing start with
  | nil => simp
  | cons input rest ih =>
      rcases List.forall_mem_cons.mp admitted with ⟨first, others⟩
      rw [after_cons, ih (keeps start input first initial) others,
        adds start input first initial, visits, List.countP_cons]
      push_cast
      split <;> omega

/--
What relates the two sides of every visit, given its records, relates the two
ends of a run.
-/
theorem related_after {Related : σ → σ → List LogRecord → Prop}
    (here : ∀ state, Related state state [])
    (onward : ∀ {before middle after first second}, Related before middle first →
      Related middle after second → Related before after (first ++ second))
    (visited : ∀ state input, Admitted input →
      Related state ((act input).run state).state ((act input).run state).logs)
    (start : σ) {inputs : List ι} (admitted : ∀ input ∈ inputs, Admitted input) :
    Related start (after act start inputs) (logs act start inputs) := by
  induction inputs generalizing start with
  | nil => exact here start
  | cons input rest ih =>
      rcases List.forall_mem_cons.mp admitted with ⟨first, others⟩
      rw [after_cons, logs_cons]
      exact onward (visited start input first) (ih _ others)

end Gathering

/-! ## What can be seen of a run -/

section Seeing

variable (visible : ι → Bool)

/-- What the visible inputs of a run came to. -/
def heard (start : σ) (inputs : List ι) : List (Except Fault α) :=
  ((visits act start inputs).filter fun visit => visible visit.input).map fun visit =>
    visit.outcome.result

theorem heard_cons_of_visible (start : σ) {input : ι} (rest : List ι)
    (seen : visible input = true) :
    heard act visible start (input :: rest) =
      ((act input).run start).result ::
        heard act visible ((act input).run start).state rest := by
  simp [heard, visits, seen]

theorem heard_cons_of_hidden (start : σ) {input : ι} (rest : List ι)
    (unseen : visible input = false) :
    heard act visible start (input :: rest) =
      heard act visible ((act input).run start).state rest := by
  simp [heard, visits, unseen]

variable {act visible} {ν : Type} {view : σ → ν}
  (hidden : ∀ input, visible input = false → Act.Keeps view (act input))
  (shown : ∀ input, visible input = true → Act.Respects view (act input))

include hidden shown

/-- Without its hidden inputs, a run leads to the same view, and the same is heard. -/
theorem purge (inputs : List ι) {first second : σ} (same : view first = view second) :
    view (after act first inputs) = view (after act second (inputs.filter visible)) ∧
      heard act visible first inputs =
        heard act visible second (inputs.filter visible) := by
  induction inputs generalizing first second with
  | nil => exact ⟨same, rfl⟩
  | cons input rest ih =>
      cases seen : visible input with
      | false =>
          rw [List.filter_cons_of_neg (by simp [seen]), heard_cons_of_hidden act visible _ _ seen]
          exact ih ((hidden input seen first).trans same)
      | true =>
          rcases shown input seen first second same with ⟨results, views⟩
          rcases ih views with ⟨viewed, others⟩
          rw [List.filter_cons_of_pos seen, heard_cons_of_visible act visible _ _ seen,
            heard_cons_of_visible act visible _ _ seen, results, others]
          exact ⟨viewed, rfl⟩

/-- Runs with the same visible inputs lead to the same view, and the same is heard. -/
theorem unwinding {first second : σ} (same : view first = view second) {inputs others : List ι}
    (alike : inputs.filter visible = others.filter visible) :
    view (after act first inputs) = view (after act second others) ∧
      heard act visible first inputs = heard act visible second others := by
  rcases purge hidden shown inputs same with ⟨leftView, left⟩
  rcases purge hidden shown others (rfl : view second = view second) with ⟨rightView, right⟩
  rw [leftView, rightView, left, right, alike]
  exact ⟨rfl, rfl⟩

end Seeing

/-! ## Inputs that change nothing -/

section Idling

variable {act} {idle : ι → Bool}
  (unmoved : ∀ input, idle input = true → ∀ state, ((act input).run state).state = state)

include unmoved

/-- Without the inputs that change nothing, a run leads to the same state. -/
theorem after_filter (start : σ) (inputs : List ι) :
    after act start (inputs.filter fun input => !idle input) = after act start inputs := by
  induction inputs generalizing start with
  | nil => rfl
  | cons input rest ih =>
      cases idles : idle input with
      | true =>
          rw [List.filter_cons_of_neg (by simp [idles]), after_cons, unmoved input idles start, ih]
      | false =>
          rw [List.filter_cons_of_pos (by simp [idles]), after_cons, after_cons, ih]

/-- Without the inputs that change nothing, the others are visited as before. -/
theorem visits_filter (start : σ) (inputs : List ι) :
    visits act start (inputs.filter fun input => !idle input) =
      (visits act start inputs).filter fun visit => !idle visit.input := by
  induction inputs generalizing start with
  | nil => rfl
  | cons input rest ih =>
      cases idles : idle input with
      | true =>
          rw [List.filter_cons_of_neg (by simp [idles]), visits,
            List.filter_cons_of_neg (by simp [idles]), unmoved input idles start, ih]
      | false =>
          rw [List.filter_cons_of_pos (by simp [idles]), visits, visits,
            List.filter_cons_of_pos (by simp [idles]), ih]

end Idling

end Run

end MapIngest
