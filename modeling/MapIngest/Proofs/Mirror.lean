import MapIngest.Proofs.Act
import MapIngest.Proofs.Run

/-!
# Actions that mirror each other

An action on one state mirrors an action on another state, seen through a view
of the first one, if both return the same, report the same, and leave states
that belong together.  Actions that are built alike from actions that mirror
each other mirror each other, and so do runs.  Calls mirror each
other if they are answered alike, and so do the questions that are made of them.
-/

namespace MapIngest

variable {σ τ ι α β : Type}

/-- An outcome, its state seen through a view. -/
def Outcome.through (view : σ → τ) (outcome : Outcome σ α) : Outcome τ α :=
  ⟨outcome.result, view outcome.state, outcome.logs⟩

/-- Asked with what is seen of a state, the image answers as the call does. -/
def Call.Mirrors (view : σ → τ) (call : Call σ α) (image : Call τ α) : Prop :=
  ∀ state, image (view state) = ((call state).1, view (call state).2)

namespace Act

/-- Run on what is seen of a state, the image does what the action does. -/
def Mirrors (view : σ → τ) (action : Act σ α) (image : Act τ α) : Prop :=
  ∀ state, image.run (view state) = (action.run state).through view

namespace Mirrors

variable {view : σ → τ}

theorem pure (value : α) : Mirrors view (Pure.pure value) (Pure.pure value) :=
  fun _ => rfl

theorem fail (fault : Fault) : Mirrors view (Act.fail fault : Act σ α) (Act.fail fault) :=
  fun _ => rfl

theorem ofExcept (result : Except Fault α) :
    Mirrors view (Act.ofExcept result) (Act.ofExcept result) :=
  fun _ => rfl

theorem log (record : LogRecord) : Mirrors view (Act.log record) (Act.log record) :=
  fun _ => rfl

theorem bind {action : Act σ α} {image : Act τ α} {next : α → Act σ β}
    {nextImage : α → Act τ β} (first : Mirrors view action image)
    (second : ∀ value, Mirrors view (next value) (nextImage value)) :
    Mirrors view (action >>= next) (image >>= nextImage) := by
  intro state
  have mirrored := first state
  rw [run_bind, run_bind, mirrored]
  rcases action.run state with ⟨result, middle, logs⟩
  cases result with
  | ok value =>
      simp only [Outcome.through, follow_ok]
      rw [second value middle]
      rfl
  | error fault => rfl

/-- What is read of the two states need not be the same. -/
theorem bind_get {next : σ → Act σ β} {nextImage : τ → Act τ β}
    (second : ∀ state, Mirrors view (next state) (nextImage (view state))) :
    Mirrors view (Act.get >>= next) (Act.get >>= nextImage) :=
  fun state => second state state

theorem map {action : Act σ α} {image : Act τ α} (mirrors : Mirrors view action image)
    (change : α → β) : Mirrors view (change <$> action) (change <$> image) := by
  intro state
  rw [run_map, run_map, mirrors state]
  rfl

theorem attempt {action : Act σ α} {image : Act τ α} (mirrors : Mirrors view action image) :
    Mirrors view (Act.attempt action) (Act.attempt image) := by
  intro state
  rw [run_attempt, run_attempt, mirrors state]
  rfl

/-- Actions on parts mirror each other if the parts are seen and replaced alike. -/
theorem onPart {κ μ : Type} {part : σ → κ} {replace : κ → σ → σ} {partImage : τ → μ}
    {replaceImage : μ → τ → τ} {partView : κ → μ} {action : Act κ α} {image : Act μ α}
    (reads : ∀ state, partImage (view state) = partView (part state))
    (writes : ∀ component state,
      view (replace component state) = replaceImage (partView component) (view state))
    (mirrors : Mirrors partView action image) :
    Mirrors view (Act.onPart part replace action)
      (Act.onPart partImage replaceImage image) := by
  intro state
  rw [run_onPart, run_onPart, reads, mirrors (part state)]
  exact congrArg (fun after => Outcome.mk _ after _) (writes _ state).symm

theorem ask {κ μ : Type} {part : σ → κ} {replace : κ → σ → σ} {partImage : τ → μ}
    {replaceImage : μ → τ → τ} {partView : κ → μ} {call : Call κ α} {image : Call μ α}
    (reads : ∀ state, partImage (view state) = partView (part state))
    (writes : ∀ component state,
      view (replace component state) = replaceImage (partView component) (view state))
    (mirrors : Call.Mirrors partView call image) :
    Mirrors view (Act.ask part replace call) (Act.ask partImage replaceImage image) := by
  intro state
  rw [run_ask, run_ask, reads, mirrors (part state)]
  exact congrArg (fun after => Outcome.mk _ after _) (writes _ state).symm

end Mirrors

end Act

namespace Run

variable {act : ι → Act σ α} {image : ι → Act τ α} {view : σ → τ}
  (mirrors : ∀ input, Act.Mirrors view (act input) (image input))

include mirrors

/-- Runs of actions that mirror each other lead to states that belong together. -/
theorem after_mirrored (start : σ) (inputs : List ι) :
    after image (view start) inputs = view (after act start inputs) := by
  induction inputs generalizing start with
  | nil => rfl
  | cons input rest ih =>
      rw [after_cons, after_cons, mirrors input start]
      exact ih _

/-- At every visit the same is returned and reported. -/
theorem visits_mirrored (start : σ) (inputs : List ι) :
    visits image (view start) inputs =
      (visits act start inputs).map fun visit =>
        ⟨view visit.before, visit.input, visit.outcome.through view⟩ := by
  induction inputs generalizing start with
  | nil => rfl
  | cons input rest ih =>
      rw [visits, visits, mirrors input start, List.map_cons]
      exact congrArg (List.cons _) (ih _)

end Run

end MapIngest
