import MapIngest.Fault.Basic
import MapIngest.Log

/-!
# Actions

An action changes a state, writes log records, and returns a result or fails.
What it has done before it fails stays done: the changed state and the records
written so far are part of the outcome either way.

Actions are sequenced by running the second on the state that the first left
behind; its records follow those of the first.  An action on a part of a state
becomes an action on the whole.
-/

namespace MapIngest

/-- What an action comes to. -/
structure Outcome (σ α : Type) where
  result : Except Fault α
  state : σ
  logs : List LogRecord

/-- An action on a state. -/
def Act (σ α : Type) : Type :=
  σ → Outcome σ α

/-- A question to an outside component: it may change the component's state, and may fail. -/
abbrev Call (σ α : Type) : Type :=
  σ → Except Fault α × σ

namespace Act

variable {σ τ α β : Type}

/-- Run an action on a state. -/
def run (action : Act σ α) (state : σ) : Outcome σ α :=
  action state

/-- Go on after an outcome. -/
def follow (first : Outcome σ α) (next : α → Act σ β) : Outcome σ β :=
  match first.result with
  | .ok value =>
    let second := (next value).run first.state
    { second with logs := first.logs ++ second.logs }
  | .error fault => ⟨.error fault, first.state, first.logs⟩

instance : Monad (Act σ) where
  pure value := fun state => ⟨.ok value, state, []⟩
  bind action next := fun state => follow (action.run state) next

/-- Fail. -/
def fail (fault : Fault) : Act σ α :=
  fun state => ⟨.error fault, state, []⟩

/-- Take over a result that was found without the state. -/
def ofExcept (result : Except Fault α) : Act σ α :=
  fun state => ⟨result, state, []⟩

/-- Read the state. -/
def get : Act σ σ :=
  fun state => ⟨.ok state, state, []⟩

/-- Change the state. -/
def modify (change : σ → σ) : Act σ Unit :=
  fun state => ⟨.ok (), change state, []⟩

/-- Write a log record. -/
def log (record : LogRecord) : Act σ Unit :=
  fun state => ⟨.ok (), state, [record]⟩

/-- Turn a failure into a result. -/
def attempt (action : Act σ α) : Act σ (Except Fault α) := fun state =>
  let outcome := action.run state
  ⟨.ok outcome.result, outcome.state, outcome.logs⟩

/-- Run an action on a part of the state. -/
def onPart (part : σ → τ) (replace : τ → σ → σ) (action : Act τ α) : Act σ α := fun state =>
  let outcome := action.run (part state)
  ⟨outcome.result, replace outcome.state state, outcome.logs⟩

/-- Ask an outside component that is a part of the state. -/
def ask (part : σ → τ) (replace : τ → σ → σ) (call : Call τ α) : Act σ α := fun state =>
  let (result, component) := call (part state)
  ⟨result, replace component state, []⟩

@[simp]
theorem run_pure (value : α) (state : σ) :
    (pure value : Act σ α).run state = ⟨.ok value, state, []⟩ := rfl

@[simp]
theorem run_bind (action : Act σ α) (next : α → Act σ β) (state : σ) :
    (action >>= next).run state = follow (action.run state) next := rfl

@[simp]
theorem run_fail (fault : Fault) (state : σ) :
    (fail fault : Act σ α).run state = ⟨.error fault, state, []⟩ := rfl

@[simp]
theorem run_ofExcept (result : Except Fault α) (state : σ) :
    (ofExcept result : Act σ α).run state = ⟨result, state, []⟩ := rfl

@[simp]
theorem run_get (state : σ) : (get : Act σ σ).run state = ⟨.ok state, state, []⟩ := rfl

@[simp]
theorem run_modify (change : σ → σ) (state : σ) :
    (modify change).run state = ⟨.ok (), change state, []⟩ := rfl

@[simp]
theorem run_log (record : LogRecord) (state : σ) :
    (log record : Act σ Unit).run state = ⟨.ok (), state, [record]⟩ := rfl

@[simp]
theorem follow_ok (value : α) (state : σ) (logs : List LogRecord) (next : α → Act σ β) :
    follow ⟨.ok value, state, logs⟩ next =
      ⟨((next value).run state).result, ((next value).run state).state,
        logs ++ ((next value).run state).logs⟩ := rfl

@[simp]
theorem follow_error (fault : Fault) (state : σ) (logs : List LogRecord) (next : α → Act σ β) :
    follow ⟨.error fault, state, logs⟩ next = ⟨.error fault, state, logs⟩ := rfl

theorem id_map_act (action : Act σ α) : id <$> action = action := by
  funext state
  rcases h : action state with ⟨result, after, logs⟩
  cases result <;> simp [Functor.map, Function.comp, follow, run, h]

theorem pure_bind_act (value : α) (next : α → Act σ β) : pure value >>= next = next value := by
  funext state
  simp [bind, follow, run, pure]

theorem bind_assoc_act {γ : Type} (action : Act σ α) (next : α → Act σ β) (last : β → Act σ γ) :
    action >>= next >>= last = action >>= fun value => next value >>= last := by
  funext state
  rcases h : action state with ⟨result, after, logs⟩
  cases result with
  | error fault => simp [bind, follow, run, h]
  | ok value =>
    rcases h' : next value after with ⟨result', after', logs'⟩
    cases result' <;> simp [bind, follow, run, h, h']

instance : LawfulMonad (Act σ) :=
  LawfulMonad.mk' (Act σ) id_map_act pure_bind_act bind_assoc_act

end Act

end MapIngest
