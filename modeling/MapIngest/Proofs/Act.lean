import MapIngest.Act

/-!
# Running actions

The equations by which an action is run: one for each way of building an
action, beside those that stand with the definition of actions.  With them the
outcome of a composite action is computed without opening its definition.

An action keeps a view of the state if the view is the same before and after,
whether the action returns or fails.  Actions that are built from actions that
keep a view keep it too.  The same goes for what an action may write: if every
record of its parts is allowed, then so is every record of the whole.

An action respects a view if it cannot tell states with the same view apart: it
comes to the same result, and leaves states with the same view.
-/

namespace MapIngest.Act

variable {σ τ α β : Type}

@[simp]
theorem run_attempt (action : Act σ α) (state : σ) :
    (attempt action).run state =
      ⟨.ok (action.run state).result, (action.run state).state,
        (action.run state).logs⟩ := rfl

@[simp]
theorem run_onPart (part : σ → τ) (replace : τ → σ → σ) (action : Act τ α) (state : σ) :
    (onPart part replace action).run state =
      ⟨(action.run (part state)).result, replace (action.run (part state)).state state,
        (action.run (part state)).logs⟩ := rfl

@[simp]
theorem run_ask (part : σ → τ) (replace : τ → σ → σ) (call : Call τ α) (state : σ) :
    (ask part replace call).run state =
      ⟨(call (part state)).1, replace (call (part state)).2 state, []⟩ := rfl

@[simp]
theorem run_map (change : α → β) (action : Act σ α) (state : σ) :
    (change <$> action).run state =
      ⟨(action.run state).result.map change, (action.run state).state,
        (action.run state).logs⟩ := by
  rcases taken : action state with ⟨result, after, logs⟩
  cases result <;> simp [Functor.map, follow, run, taken, Except.map, Function.comp]

@[simp]
theorem run_ite (condition : Prop) [Decidable condition] (first second : Act σ α)
    (state : σ) :
    (if condition then first else second).run state =
      if condition then first.run state else second.run state := by
  split <;> rfl

theorem run_get_bind (next : σ → Act σ β) (state : σ) :
    (get >>= next).run state = (next state).run state := rfl

theorem run_forM_log (records : List LogRecord) (state : σ) :
    (forM records log : Act σ PUnit).run state = ⟨.ok ⟨⟩, state, records⟩ := by
  induction records with
  | nil => rfl
  | cons record rest ih => simp [ih]

/-- If a sequence of actions returns, its first action returned. -/
theorem follow_isOk {first : Outcome σ α} {next : α → Act σ β} {value : β}
    (returned : (follow first next).result = .ok value) :
    ∃ earlier, first.result = .ok earlier := by
  rcases first with ⟨result, state, logs⟩
  cases result with
  | ok earlier => exact ⟨earlier, rfl⟩
  | error fault => cases returned

theorem exists_run_eq {action : Act σ α} {state : σ} {value : α}
    (returned : (action.run state).result = .ok value) :
    ∃ after logs, action.run state = ⟨.ok value, after, logs⟩ :=
  ⟨_, _, congrArg (Outcome.mk · _ _) returned⟩

/-- A sequence returns exactly if its first action returns and the rest returns from there. -/
theorem run_bind_eq_ok {action : Act σ α} {next : α → Act σ β} {state after : σ} {value : β}
    {logs : List LogRecord} :
    (action >>= next).run state = ⟨.ok value, after, logs⟩ ↔
      ∃ earlier middle first second, action.run state = ⟨.ok earlier, middle, first⟩ ∧
        (next earlier).run middle = ⟨.ok value, after, second⟩ ∧ logs = first ++ second := by
  rw [run_bind]
  constructor
  · intro returned
    rcases taken : action.run state with ⟨result, middle, first⟩
    rw [taken] at returned
    cases result with
    | error fault => cases returned
    | ok earlier =>
        rcases further : (next earlier).run middle with ⟨outcome, last, second⟩
        rw [follow_ok, further, Outcome.mk.injEq] at returned
        obtain ⟨rfl, rfl, rfl⟩ := returned
        exact ⟨earlier, middle, first, second, rfl, further, rfl⟩
  · rintro ⟨earlier, middle, first, second, taken, further, rfl⟩
    rw [taken, follow_ok, further]

theorem run_ask_eq_ok {part : σ → τ} {replace : τ → σ → σ} {call : Call τ α} {state after : σ}
    {value : α} {logs : List LogRecord} :
    (ask part replace call).run state = ⟨.ok value, after, logs⟩ ↔
      ∃ component, call (part state) = (.ok value, component) ∧
        after = replace component state ∧ logs = [] := by
  rw [run_ask, Outcome.mk.injEq]
  constructor
  · rintro ⟨answered, rfl, rfl⟩
    exact ⟨_, Prod.ext answered rfl, rfl, rfl⟩
  · rintro ⟨component, answered, rfl, rfl⟩
    rw [answered]
    exact ⟨rfl, rfl, rfl⟩

theorem run_pure_eq_ok {value other : α} {state after : σ} {logs : List LogRecord} :
    (Pure.pure value : Act σ α).run state = ⟨.ok other, after, logs⟩ ↔
      value = other ∧ state = after ∧ [] = logs := by
  rw [run_pure, Outcome.mk.injEq, Except.ok.injEq]

theorem run_ofExcept_eq_ok {result : Except Fault α} {value : α} {state after : σ}
    {logs : List LogRecord} :
    (ofExcept result).run state = ⟨.ok value, after, logs⟩ ↔
      result = .ok value ∧ state = after ∧ [] = logs := by
  rw [run_ofExcept, Outcome.mk.injEq]

theorem run_map_eq_ok {change : α → β} {action : Act σ α} {state after : σ} {value : β}
    {logs : List LogRecord} :
    (change <$> action).run state = ⟨.ok value, after, logs⟩ ↔
      ∃ earlier, action.run state = ⟨.ok earlier, after, logs⟩ ∧ change earlier = value := by
  rw [run_map]
  rcases action.run state with ⟨result, middle, written⟩
  cases result with
  | error fault => simp [Except.map]
  | ok earlier => simp [Except.map, and_comm, and_left_comm]

/-! ## Views that an action keeps -/

/-- The view of the state is the same before and after. -/
def Keeps {ν : Type} (view : σ → ν) (action : Act σ α) : Prop :=
  ∀ state, view (action.run state).state = view state

namespace Keeps

variable {ν : Type} {view : σ → ν}

theorem pure (value : α) : Keeps view (Pure.pure value : Act σ α) :=
  fun _ => rfl

theorem log (record : LogRecord) : Keeps view (Act.log record) :=
  fun _ => rfl

theorem get : Keeps view (Act.get : Act σ σ) :=
  fun _ => rfl

theorem fail (fault : Fault) : Keeps view (Act.fail fault : Act σ α) :=
  fun _ => rfl

theorem ofExcept (result : Except Fault α) : Keeps view (Act.ofExcept result) :=
  fun _ => rfl

theorem attempt {action : Act σ α} (keeps : Keeps view action) :
    Keeps view (Act.attempt action) :=
  keeps

theorem map {action : Act σ α} (keeps : Keeps view action) (change : α → β) :
    Keeps view (change <$> action) := by
  intro state
  rw [run_map]
  exact keeps state

/-- What is kept of a part is kept of the whole, if the view sees no more of the part. -/
theorem onPart {κ : Type} {part : σ → τ} {replace : τ → σ → σ} {action : Act τ α}
    {inner : τ → κ} (keeps : Keeps inner action)
    (seen : ∀ state component, inner component = inner (part state) →
      view (replace component state) = view state) :
    Keeps view (Act.onPart part replace action) :=
  fun state => seen state _ (keeps (part state))

/-- A failure of the first action keeps what the first action keeps. -/
theorem bind {action : Act σ α} {next : α → Act σ β} (first : Keeps view action)
    (second : ∀ value, Keeps view (next value)) : Keeps view (action >>= next) := by
  intro state
  have kept := first state
  rw [run_bind]
  rcases taken : action.run state with ⟨result, middle, logs⟩
  rw [taken] at kept
  cases result with
  | ok value => exact (second value middle).trans kept
  | error fault => exact kept

end Keeps

/-! ## Records that an action may write -/

/-- Every record that the action writes is allowed. -/
def Writes (Allowed : LogRecord → Prop) (action : Act σ α) : Prop :=
  ∀ state, ∀ record ∈ (action.run state).logs, Allowed record

namespace Writes

variable {Allowed : LogRecord → Prop}

/-- An action that writes nothing may write anything. -/
theorem of_quiet {action : Act σ α} (quiet : ∀ state, (action.run state).logs = []) :
    Writes Allowed action := by
  intro state record written
  rw [quiet state] at written
  cases written

theorem pure (value : α) : Writes Allowed (Pure.pure value : Act σ α) :=
  of_quiet fun _ => rfl

theorem get : Writes Allowed (Act.get : Act σ σ) :=
  of_quiet fun _ => rfl

theorem modify (change : σ → σ) : Writes Allowed (Act.modify change) :=
  of_quiet fun _ => rfl

theorem fail (fault : Fault) : Writes Allowed (Act.fail fault : Act σ α) :=
  of_quiet fun _ => rfl

theorem ofExcept (result : Except Fault α) : Writes Allowed (Act.ofExcept result : Act σ α) :=
  of_quiet fun _ => rfl

theorem ask (part : σ → τ) (replace : τ → σ → σ) (call : Call τ α) :
    Writes Allowed (Act.ask part replace call) :=
  of_quiet fun _ => rfl

theorem log {record : LogRecord} (allowed : Allowed record) :
    Writes Allowed (Act.log record : Act σ Unit) := by
  intro state written member
  obtain rfl := List.mem_singleton.mp member
  exact allowed

theorem attempt {action : Act σ α} (writes : Writes Allowed action) :
    Writes Allowed (Act.attempt action) :=
  writes

theorem onPart {part : σ → τ} {replace : τ → σ → σ} {action : Act τ α}
    (writes : Writes Allowed action) : Writes Allowed (Act.onPart part replace action) :=
  fun state => writes (part state)

theorem map {action : Act σ α} (writes : Writes Allowed action) (change : α → β) :
    Writes Allowed (change <$> action) := by
  intro state
  rw [run_map]
  exact writes state

/-- What the second action writes follows what the first one wrote. -/
theorem bind {action : Act σ α} {next : α → Act σ β} (first : Writes Allowed action)
    (second : ∀ value, Writes Allowed (next value)) : Writes Allowed (action >>= next) := by
  intro state
  have allowed := first state
  rw [run_bind]
  rcases taken : action.run state with ⟨result, middle, logs⟩
  rw [taken] at allowed
  cases result with
  | error fault => exact allowed
  | ok value =>
      intro record member
      rcases List.mem_append.mp member with early | late
      · exact allowed record early
      · exact second value middle record late

end Writes

/-! ## Views that an action respects -/

/-- From states with the same view come the same result and states with the same view. -/
def Respects {ν : Type} (view : σ → ν) (action : Act σ α) : Prop :=
  ∀ first second, view first = view second →
    (action.run first).result = (action.run second).result ∧
      view (action.run first).state = view (action.run second).state

namespace Respects

variable {ν : Type} {view : σ → ν}

/-- An action that keeps the view respects it if its result is always the same. -/
theorem of_keeps {action : Act σ α} (keeps : Keeps view action)
    (always : ∀ first second, (action.run first).result = (action.run second).result) :
    Respects view action := by
  intro first second same
  rw [keeps first, keeps second]
  exact ⟨always first second, same⟩

theorem pure (value : α) : Respects view (Pure.pure value : Act σ α) :=
  of_keeps (.pure value) fun _ _ => rfl

theorem log (record : LogRecord) : Respects view (Act.log record) :=
  of_keeps (.log record) fun _ _ => rfl

theorem fail (fault : Fault) : Respects view (Act.fail fault : Act σ α) :=
  of_keeps (.fail fault) fun _ _ => rfl

theorem attempt {action : Act σ α} (respects : Respects view action) :
    Respects view (Act.attempt action) := by
  intro first second same
  rcases respects first second same with ⟨results, views⟩
  exact ⟨congrArg Except.ok results, views⟩

theorem map {action : Act σ α} (respects : Respects view action) (change : α → β) :
    Respects view (change <$> action) := by
  intro first second same
  rcases respects first second same with ⟨results, views⟩
  rw [run_map, run_map]
  exact ⟨congrArg (Except.map change) results, views⟩

theorem bind {action : Act σ α} {next : α → Act σ β} (initial : Respects view action)
    (further : ∀ value, Respects view (next value)) : Respects view (action >>= next) := by
  intro first second same
  have agreed := initial first second same
  rw [run_bind, run_bind]
  rcases left : action.run first with ⟨result, leftState, leftLogs⟩
  rcases right : action.run second with ⟨also, rightState, rightLogs⟩
  rw [left, right] at agreed
  obtain ⟨rfl, views⟩ : result = also ∧ view leftState = view rightState := agreed
  cases result with
  | ok value => exact further value leftState rightState views
  | error fault => exact ⟨rfl, views⟩

end Respects

end MapIngest.Act
