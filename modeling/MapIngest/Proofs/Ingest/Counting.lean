import MapIngest.Ingest.Stats
import MapIngest.Proofs.Act

/-!
# One count at a time

Counting an observation raises one count of one stream by one and leaves every
other count as it is.  Counts are balanced when every observation that was
received is accounted for: it was inserted, or it was dropped for one of the
three reasons.
-/

namespace MapIngest.Ingest

namespace StreamCounts

/-- Every received observation was inserted or dropped. -/
def Balanced (counts : StreamCounts) : Prop :=
  counts.received = counts.inserted + counts.notReady + counts.noPose + counts.engineError

/-- Balanced counts report as dropped what was received and not inserted. -/
theorem Balanced.dropped {counts : StreamCounts} (balanced : counts.Balanced) :
    counts.dropped = counts.received - counts.inserted := by
  rw [Balanced] at balanced
  rw [StreamCounts.dropped, balanced]
  omega

end StreamCounts

namespace Stats

/-- The counts with one of them raised by one. -/
def bumped (stream : Stream) (counter : Counter) (stats : Stats) : Stats :=
  stats.set stream counter (stats.get stream counter + 1)

@[simp]
theorem run_bump (stream : Stream) (counter : Counter) (stats : Stats) :
    (bump stream counter).run stats =
      ⟨.ok (stats.get stream counter + 1), stats.bumped stream counter, []⟩ := rfl

theorem counts_setCounts (stats : Stats) (stored asked : Stream) (counts : StreamCounts) :
    (stats.setCounts stored counts).counts asked =
      if stored = asked then counts else stats.counts asked := by
  cases stored <;> cases asked <;> rfl

theorem balanced_iff (stats : Stats) (stream : Stream) :
    (stats.counts stream).Balanced ↔
      stats.get stream .received =
        stats.get stream .inserted + stats.get stream .notReady +
          stats.get stream .noPose + stats.get stream .engineError :=
  Iff.rfl

theorem get_bumped (stats : Stats) (stream asked : Stream) (counter wanted : Counter) :
    (stats.bumped stream counter).get asked wanted =
      stats.get asked wanted + if stream = asked ∧ counter = wanted then 1 else 0 := by
  rw [bumped, set, get, counts_setCounts]
  by_cases same : stream = asked
  · subst same
    rw [if_pos rfl, StreamCounts.get_set]
    by_cases same : counter = wanted
    · subst same
      simp [get]
    · simp [same, get]
  · simp [same, get]

end Stats

end MapIngest.Ingest
