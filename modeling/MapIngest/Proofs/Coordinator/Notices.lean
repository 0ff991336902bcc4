import Mathlib.Data.List.Infix
import MapIngest.Proofs.Coordinator.Entry

/-!
# Notices

Among the records that a coordinator writes, those about observations are its
notices.  A notice is known by its level and by how its text begins; what
follows names the frame and the fault.  No heading of a notice begins another
one, so a record is one notice at most.

Setting up, records of cameras, and operations on the map write no notice:
their records begin with words that are apart from every heading.
-/

namespace MapIngest

open MapIngest.Geometry Ingest Sensor Calibration

/-- A text begins with a heading. -/
def Begins (heading text : String) : Prop :=
  heading.toList <+: text.toList

instance (heading text : String) : Decidable (Begins heading text) :=
  inferInstanceAs (Decidable (heading.toList <+: text.toList))

namespace Begins

theorem append {heading text : String} (begins : Begins heading text) (rest : String) :
    Begins heading (text ++ rest) := by
  rw [Begins, String.toList_append]
  exact begins.trans (List.prefix_append _ _)

/-- Of two beginnings of a text, one begins the other. -/
theorem total {first second text : String} (left : Begins first text)
    (right : Begins second text) : Begins first second ∨ Begins second first :=
  List.prefix_or_prefix_of_prefix left right

end Begins

/-- What is reported about observations. -/
inductive Notice where
  /-- A disparity image came before the calibration. -/
  | notReady
  /-- The latest pose stands in for the one at a stamp. -/
  | fallback
  /-- There is no pose. -/
  | noPose
  /-- The engine failed to take an observation of a stream. -/
  | failed (stream : Stream)
  /-- The first observation of a stream was inserted. -/
  | first (stream : Stream)
deriving DecidableEq

namespace Notice

/-- All notices. -/
def all : List Notice :=
  [.notReady, .fallback, .noPose, .failed .disparity, .failed .pointcloud, .first .disparity,
    .first .pointcloud]

theorem mem_all (notice : Notice) : notice ∈ all := by
  rcases notice with _ | _ | _ | stream | stream
  · decide
  · decide
  · decide
  · cases stream <;> decide
  · cases stream <;> decide

/-- The level of a notice. -/
def level : Notice → Level
  | .notReady | .fallback => .warn
  | .noPose | .failed _ => .error
  | .first _ => .info

/-- How the text of a notice begins. -/
def heading : Notice → String
  | .notReady => "No camera info available yet"
  | .fallback => "Using latest TF transform"
  | .noPose => "Error getting TF transform"
  | .failed .disparity => "Disparity insertion failed"
  | .failed .pointcloud => "Pointcloud insertion failed"
  | .first .disparity => "First disparity image inserted"
  | .first .pointcloud => "First pointcloud inserted"

/-- Whether a record is a notice. -/
def isTold (notice : Notice) (record : LogRecord) : Bool :=
  record.level = notice.level && Begins notice.heading record.text

/-- How often a notice was given. -/
def told (notice : Notice) (log : List LogRecord) : Nat :=
  log.countP notice.isTold

@[simp]
theorem told_nil (notice : Notice) : notice.told [] = 0 := rfl

@[simp]
theorem told_append (notice : Notice) (first second : List LogRecord) :
    notice.told (first ++ second) = notice.told first + notice.told second :=
  List.countP_append

theorem begins_of_isTold {notice : Notice} {record : LogRecord}
    (told : notice.isTold record = true) : Begins notice.heading record.text := by
  rw [isTold, Bool.and_eq_true] at told
  exact of_decide_eq_true told.2

/-- No heading begins another one. -/
theorem eq_of_begins {first second : Notice} (begins : Begins first.heading second.heading) :
    first = second := by
  have apart : ∀ first ∈ all, ∀ second ∈ all,
      Begins first.heading second.heading → first = second := by decide
  exact apart first first.mem_all second second.mem_all begins

/-- The record is the notice. -/
structure Tells (record : LogRecord) (notice : Notice) : Prop where
  level : record.level = notice.level
  begins : Begins notice.heading record.text

/-- A record that is one notice is no other. -/
theorem Tells.isTold_eq {record : LogRecord} {given : Notice} (tells : Tells record given)
    (notice : Notice) : notice.isTold record = decide (given = notice) := by
  by_cases same : given = notice
  · subst same
    simp [isTold, tells.level, tells.begins]
  · rw [decide_eq_false same, Bool.eq_false_iff]
    intro told
    rcases tells.begins.total (begins_of_isTold told) with shorter | longer
    · exact same (eq_of_begins shorter)
    · exact same (eq_of_begins longer).symm

theorem Tells.told_singleton {record : LogRecord} {given : Notice} (tells : Tells record given)
    (notice : Notice) : notice.told [record] = if given = notice then 1 else 0 := by
  simp [told, List.countP_singleton, tells.isTold_eq]

/-! ## The records that are notices -/

theorem tells_notReadyRecord : Tells Coordinator.notReadyRecord .notReady :=
  ⟨rfl, by decide⟩

theorem tells_fallbackRecord : Tells PoseDesk.fallbackRecord .fallback :=
  ⟨rfl, by decide⟩

theorem tells_failureRecord (fault : Fault) : Tells (PoseDesk.failureRecord fault) .noPose :=
  ⟨rfl, .append (by decide) _⟩

theorem tells_insertionFailed (stream : Stream) (frame : String) (fault : Fault) :
    Tells (Coordinator.insertionFailed stream frame fault) (.failed stream) := by
  refine ⟨rfl, .append (.append (.append ?_ _) _) _⟩
  cases stream <;> decide

/-- The announcement of an observation is the notice of the first one of its stream. -/
theorem tells_announcement {observation : Observation} {record : LogRecord}
    (announced : observation.announcement = .ok record) :
    Tells record (.first observation.stream) := by
  cases observation with
  | disparity observation =>
      obtain ⟨width, -, announced⟩ := bind_eq_ok.mp announced
      obtain ⟨height, -, announced⟩ := bind_eq_ok.mp announced
      cases announced
      have opening : Begins (heading (.first .disparity))
          "First disparity image inserted, frame_id=" := by decide
      exact ⟨rfl, opening.append _ |>.append _ |>.append _ |>.append _ |>.append _⟩
  | cloud observation =>
      obtain ⟨points, -, announced⟩ := bind_eq_ok.mp announced
      cases announced
      have opening : Begins (heading (.first .pointcloud))
          "First pointcloud inserted, frame_id=" := by decide
      exact ⟨rfl, opening.append _ |>.append _ |>.append _⟩

/-! ## The records that are not -/

/-- The record is no notice. -/
def Unnoticed (record : LogRecord) : Prop :=
  ∀ notice : Notice, notice.isTold record = false

/-- How the texts of the other records begin. -/
def otherHeadings : List String :=
  ["Cannot derive Q", "Reprojection matrix Q", "Q already", "Invalid Q matrix size", "Map reset",
    "Map engine could not serialize", "Failed to save map to ", "Failed to load map from ",
    "set_box_occupancy"]

/-- No heading of a notice begins another heading, nor the other way round. -/
theorem apart_of_mem : ∀ words ∈ otherHeadings, ∀ notice ∈ all,
    ¬ Begins words notice.heading ∧ ¬ Begins notice.heading words := by
  decide +kernel

theorem unnoticed (words : String) (other : words ∈ otherHeadings) {record : LogRecord}
    (begins : Begins words record.text) : Unnoticed record := by
  intro notice
  rw [Bool.eq_false_iff]
  intro told
  have apart := apart_of_mem words other notice notice.mem_all
  rcases begins.total (begins_of_isTold told) with shorter | longer
  · exact apart.1 shorter
  · exact apart.2 longer

theorem told_of_unnoticed {log : List LogRecord} (silent : ∀ record ∈ log, Unnoticed record)
    (notice : Notice) : notice.told log = 0 := by
  rw [told, List.countP_eq_zero]
  intro record written
  simp [silent record written notice]

theorem unnoticed_notDerived (fault : Fault) : Unnoticed (notDerived fault) :=
  unnoticed "Cannot derive Q" (by simp [otherHeadings]) (.append (by decide) _)

theorem unnoticed_settledByCameras (left right : Camera) (size : Int × Int) :
    Unnoticed (settledByCameras left right size) := by
  have opening : Begins "Reprojection matrix Q"
      "Reprojection matrix Q derived from camera info (" := by decide
  exact unnoticed "Reprojection matrix Q" (by simp [otherHeadings])
    (opening.append _ |>.append _ |>.append _ |>.append _ |>.append _ |>.append _ |>.append _)

theorem unnoticed_settledByConfiguration : Unnoticed settledByConfiguration :=
  unnoticed "Reprojection matrix Q" (by simp [otherHeadings]) (by decide)

theorem unnoticed_alreadySettled (readiness : Readiness) :
    Unnoticed (alreadySettled readiness) :=
  unnoticed "Q already" (by simp [otherHeadings]) (.append (.append (by decide) _) _)

theorem unnoticed_wrongLength (found : Nat) : Unnoticed (wrongLength found) :=
  unnoticed "Invalid Q matrix size" (by simp [otherHeadings])
    (.append (.append (.append (by decide) _) _) _)

theorem unnoticed_reset : Unnoticed (.info "Map reset") :=
  unnoticed "Map reset" (by simp [otherHeadings]) (by decide)

theorem unnoticed_unserialized :
    Unnoticed (.error "Map engine could not serialize the full map") :=
  unnoticed "Map engine could not serialize" (by simp [otherHeadings]) (by decide)

theorem unnoticed_unreadableBox : Unnoticed Coordinator.unreadableBox :=
  unnoticed "set_box_occupancy" (by simp [otherHeadings]) (by decide)

theorem unnoticed_negativeBox (size : Vec3 Float) : Unnoticed (Coordinator.negativeBox size) :=
  unnoticed "set_box_occupancy" (by simp [otherHeadings]) (.append (by decide) _)

theorem unnoticed_boxFailed (fault : Fault) : Unnoticed (Coordinator.boxFailed fault) :=
  unnoticed "set_box_occupancy" (by simp [otherHeadings]) (.append (by decide) _)

end Notice

/-! ## Entries without notices -/

namespace Calibration

theorem writes_derive (left right : Camera) : Act.Writes Notice.Unnoticed (derive left right) := by
  unfold derive
  split
  · exact .log (Notice.unnoticed_notDerived _)
  · exact .bind (.ofExcept _) fun size => .bind (.modify _) fun _ =>
      .log (Notice.unnoticed_settledByCameras left right size)

theorem writes_deriveIfOpen : Act.Writes Notice.Unnoticed deriveIfOpen := by
  refine .bind .get fun calibration => ?_
  split
  · exact writes_derive _ _
  · exact .pure _

theorem writes_settle (matrix : Mat4 Float) : Act.Writes Notice.Unnoticed (settle matrix) := by
  refine .bind .get fun calibration => ?_
  split
  · exact .bind (.log (Notice.unnoticed_alreadySettled _)) fun _ => .pure _
  · exact .bind (.modify _) fun _ =>
      .bind (.log Notice.unnoticed_settledByConfiguration) fun _ => .pure _

theorem writes_configure (values : Value) :
    Act.Writes Notice.Unnoticed (Calibration.configure values) := by
  unfold Calibration.configure
  split
  · exact .pure _
  · refine .bind (.ofExcept _) fun entries => ?_
    split
    · exact .bind (.log (Notice.unnoticed_wrongLength _)) fun _ => .pure _
    · exact .bind (.ofExcept _) fun tensor => .bind (.ofExcept _) fun matrix => writes_settle _

end Calibration

namespace Coordinator

variable {ε τ π α : Type}

theorem writes_askEngine (call : Call ε α) :
    Act.Writes Notice.Unnoticed (askEngine (τ := τ) (π := π) call) :=
  .ask _ _ _

theorem writes_tryEngine (call : Call ε α) :
    Act.Writes Notice.Unnoticed (tryEngine (τ := τ) (π := π) call) := by
  refine .bind (.attempt (writes_askEngine call)) ?_
  rintro (fault | value)
  · dsimp only
    split
    · exact .fail fault
    · exact .pure _
  · exact .pure _

variable (components : Components ε τ π)

theorem writes_publish (publication : Publication) :
    Act.Writes Notice.Unnoticed (publish components publication) :=
  .ask _ _ _

theorem writes_reset : Act.Writes Notice.Unnoticed (reset components) :=
  .bind (writes_askEngine _) fun _ => .bind (.log Notice.unnoticed_reset) fun _ => .pure _

theorem writes_publishAll : Act.Writes Notice.Unnoticed (publishAll components) := by
  refine .bind .get fun coordinator => .bind (writes_askEngine _) ?_
  rintro ⟨occupied, free⟩
  refine .bind (writes_publish components _) fun _ => ?_
  refine .bind (writes_publish components _) fun _ => ?_
  refine .bind (writes_askEngine _) fun binary? => .bind (writes_askEngine _) fun full? => ?_
  refine .bind (writes_publish components _) fun _ => ?_
  exact .bind (writes_publish components _) fun _ => .pure _

theorem writes_getMap : Act.Writes Notice.Unnoticed (getMap components) := by
  refine .bind .get fun coordinator => .bind (writes_askEngine _) ?_
  rintro (none | snapshot)
  · exact .bind (.log Notice.unnoticed_unserialized) fun _ => .pure _
  · exact .pure _

theorem writes_fileOperation (call : Call ε Value) {words : String} (path : String)
    (other : words ∈ Notice.otherHeadings) :
    Act.Writes Notice.Unnoticed (fileOperation (τ := τ) (π := π) call words path) := by
  refine .bind (writes_askEngine call) fun answer => ?_
  dsimp only
  split
  · exact .bind (.log (Notice.unnoticed words other (.append List.prefix_rfl _))) fun _ => .pure _
  · exact .pure _

theorem writes_markBox (call : Call ε Unit) :
    Act.Writes Notice.Unnoticed (markBox (τ := τ) (π := π) call) := by
  refine .bind (writes_tryEngine call) ?_
  rintro (fault | value)
  · exact .bind (.log (Notice.unnoticed_boxFailed fault)) fun _ => .pure _
  · exact .pure _

theorem writes_setBox (centre size : Value) (occupied : Bool) :
    Act.Writes Notice.Unnoticed (setBox components centre size occupied) := by
  refine .bind (.ofExcept _) fun centre? => .bind (.ofExcept _) fun size? => ?_
  rcases centre? with none | centre
  · exact .bind (.log Notice.unnoticed_unreadableBox) fun _ => .pure _
  rcases size? with none | size
  · exact .bind (.log Notice.unnoticed_unreadableBox) fun _ => .pure _
  dsimp only
  split
  · exact .bind (.log (Notice.unnoticed_negativeBox size)) fun _ => .pure _
  · split
    · exact writes_markBox _
    · exact writes_markBox _

/-- Setting up writes no notice. -/
theorem writes_configure (params : Config.ManagerParams) :
    Act.Writes Notice.Unnoticed (configure (ε := ε) (τ := τ) (π := π) params) := by
  unfold configure
  split
  · exact .bind (.onPart (Calibration.writes_configure _)) fun _ => .pure _
  · exact .pure _

end Coordinator

/-- An entry without an observation writes no notice. -/
theorem Entry.writes_aside {ε τ π : Type} (components : Components ε τ π) (entry : Entry)
    (aside : entry.observation? = none) :
    Act.Writes Notice.Unnoticed (entry.act components) := by
  cases entry with
  | leftCamera camera =>
      exact .map (.onPart (.bind (.modify _) fun _ => Calibration.writes_deriveIfOpen)) _
  | rightCamera camera =>
      exact .map (.onPart (.bind (.modify _) fun _ => Calibration.writes_deriveIfOpen)) _
  | observe observation => cases aside
  | reset => exact .map (Coordinator.writes_reset components) _
  | publishAll => exact .map (Coordinator.writes_publishAll components) _
  | getMap => exact .map (Coordinator.writes_getMap components) _
  | saveMap path =>
      exact .map (Coordinator.writes_fileOperation _ _ (by simp [Notice.otherHeadings])) _
  | loadMap path =>
      exact .map (Coordinator.writes_fileOperation _ _ (by simp [Notice.otherHeadings])) _
  | setBox centre size occupied =>
      exact .map (Coordinator.writes_setBox components centre size occupied) _

end MapIngest
