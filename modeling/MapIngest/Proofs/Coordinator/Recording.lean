import MapIngest.Proofs.Coordinator.Mirroring
import MapIngest.Proofs.Coordinator.Publication

/-!
# Keeping transcripts changes nothing

What is proved about runs with transcripts is true of runs without them.  A component
that is recorded mirrors the one that is not, seen without its transcript.  So if the
transcripts are forgotten, every entry of a coordinator whose components are recorded
returns the same, reports the same, and leaves the same state as the entry of a
coordinator whose components are not.
-/

namespace MapIngest

open MapIngest.Geometry Ingest

/-! ## Components that are recorded -/

theorem Recorded.mirrors_call {σ κ α : Type} (exchange : Except Fault α → κ) (inner : Call σ α) :
    Call.Mirrors Recorded.inner (call exchange inner) inner :=
  fun _ => rfl

variable {ε τ π : Type}

theorem MapEngine.mirrors_recorded (engine : MapEngine ε) :
    engine.recorded.Mirrors Recorded.inner engine where
  setParameters _ := Recorded.mirrors_call _ _
  insert insertion := by
    rw [recorded_insert]
    exact Recorded.mirrors_call _ _
  setOccupied _ _ := Recorded.mirrors_call _ _
  setFree _ _ := Recorded.mirrors_call _ _
  reset := Recorded.mirrors_call _ _
  markers _ := Recorded.mirrors_call _ _
  binaryMap := Recorded.mirrors_call _ _
  fullMap := Recorded.mirrors_call _ _
  save _ := Recorded.mirrors_call _ _
  load _ := Recorded.mirrors_call _ _

theorem Ingest.PoseSource.mirrors_recorded (poses : PoseSource τ) :
    poses.recorded.Mirrors Recorded.inner poses where
  canTransform _ _ _ := Recorded.mirrors_call _ _
  lookup _ _ _ := Recorded.mirrors_call _ _

theorem PublicationBoard.mirrors_recorded (board : PublicationBoard π) :
    board.recorded.Mirrors Recorded.inner board :=
  fun _ => Recorded.mirrors_call _ _

namespace Guise

/-- The engine and the source of poses without their transcripts. -/
def recorded : Guise (Recorded ε EngineExchange) (Recorded τ PoseExchange) π ε τ π where
  engine := Recorded.inner
  source := Recorded.inner
  board := id

/-- All components without their transcripts. -/
def watched :
    Guise (Recorded ε EngineExchange) (Recorded τ PoseExchange) (Recorded π BoardExchange)
      ε τ π where
  engine := Recorded.inner
  source := Recorded.inner
  board := Recorded.inner

end Guise

theorem Components.mirrors_recorded (components : Components ε τ π) :
    components.recorded.Mirrors .recorded components where
  engine := components.engine.mirrors_recorded
  poses := components.poses.mirrors_recorded
  board _ _ := rfl

theorem Components.mirrors_watched (components : Components ε τ π) :
    components.watched.Mirrors .watched components where
  engine := components.engine.mirrors_recorded
  poses := components.poses.mirrors_recorded
  board := components.board.mirrors_recorded

/-! ## Runs without transcripts -/

namespace Coordinator

/-- A coordinator without the transcripts of its engine and its source of poses. -/
def forget (coordinator : RecordedCoordinator ε τ π) : Coordinator ε τ π :=
  coordinator.through .recorded

/-- A coordinator without any of its transcripts. -/
def unwatched (coordinator : WatchedCoordinator ε τ π) : Coordinator ε τ π :=
  coordinator.through .watched

/-- A coordinator with empty transcripts. -/
def watched (coordinator : Coordinator ε τ π) : WatchedCoordinator ε τ π :=
  { coordinator with
    engine := ⟨coordinator.engine, []⟩
    source := ⟨coordinator.source, []⟩
    board := ⟨coordinator.board, []⟩ }

/-- From its beginning, a run does the same with and without transcripts. -/
theorem forget_after (components : Components ε τ π) (params : Config.ManagerParams)
    (engine : ε) (source : τ) (board : π) (entries : List Entry) :
    let bare := (start params engine source board).state
    let recorded := begun params engine source board
    Run.after (Entry.act components) bare entries =
        (Run.after (Entry.act components.recorded) recorded entries).forget ∧
      Run.visits (Entry.act components) bare entries =
        (Run.visits (Entry.act components.recorded) recorded entries).map fun visit =>
          ⟨visit.before.forget, visit.input, visit.outcome.through forget⟩ := by
  intro bare recorded
  have same : bare = recorded.forget := start_through .recorded params
    (⟨engine, []⟩ : Recorded ε EngineExchange) (⟨source, []⟩ : Recorded τ PoseExchange) board
  have mirrors := Entry.mirrors_act components.mirrors_recorded
  rw [same]
  exact ⟨Run.after_mirrored mirrors recorded entries, Run.visits_mirrored mirrors recorded entries⟩

/-- From any state, a run does the same with and without transcripts of all components. -/
theorem unwatched_after (components : Components ε τ π) (start : Coordinator ε τ π)
    (entries : List Entry) :
    Run.after (Entry.act components) start entries =
        (Run.after (Entry.act components.watched) start.watched entries).unwatched ∧
      Run.visits (Entry.act components) start entries =
        (Run.visits (Entry.act components.watched) start.watched entries).map fun visit =>
          ⟨visit.before.unwatched, visit.input, visit.outcome.through unwatched⟩ := by
  have mirrors := Entry.mirrors_act components.mirrors_watched
  exact ⟨Run.after_mirrored mirrors start.watched entries,
    Run.visits_mirrored mirrors start.watched entries⟩

end Coordinator

end MapIngest
