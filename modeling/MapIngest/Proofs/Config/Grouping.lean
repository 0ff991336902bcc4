import MapIngest.Proofs.Config.Layering

/-!
# Merging layers in groups

Layers can be merged in groups, and then the groups.  To merge the first layers ahead of
the last one makes no difference.  To merge the last layers ahead of the first one makes a
difference in one situation only: somewhere a value that is no mapping stands between two
mappings.  In order, the value replaces the mapping before it, and only the one after it
is left.  If the last layers come first, the value is replaced before it can do so, and
the two mappings are merged; the result is the same only if the later mapping already
holds what they merge to.
-/

namespace MapIngest

namespace Mapping

/-- Noting keeps what was noted, and adds what is noted. -/
theorem any_foldl_noteKey (noted keys : List Scalar) (key : Scalar) :
    (keys.foldl noteKey noted).any (·.sameKey key) =
      (noted.any (·.sameKey key) || keys.any (·.sameKey key)) := by
  induction keys generalizing noted with
  | nil => simp
  | cons first rest ih =>
      have step : (noteKey noted first).any (·.sameKey key) =
          (noted.any (·.sameKey key) || first.sameKey key) := by
        rw [noteKey]
        split
        next present =>
          by_cases same : first.sameKey key = true
          · -- The key is there already, under the one that is noted again.
            have there : noted.any (·.sameKey key) = true := by
              rcases List.any_eq_true.mp present with ⟨old, member, equal⟩
              refine List.any_eq_true.mpr ⟨old, member, ?_⟩
              rw [Scalar.sameKey_congr equal, same]
            rw [there, Bool.true_or]
          · rw [Bool.not_eq_true] at same
            rw [same, Bool.or_false]
        next => simp
      rw [List.foldl_cons, ih, step, List.any_cons, Bool.or_assoc]

/-- Keys may be noted in groups. -/
theorem foldl_noteKey_foldl (noted first second : List Scalar) :
    (second.foldl noteKey first).foldl noteKey noted =
      second.foldl noteKey (first.foldl noteKey noted) := by
  induction second generalizing first with
  | nil => rfl
  | cons key rest ih =>
      have step : (noteKey first key).foldl noteKey noted =
          noteKey (first.foldl noteKey noted) key := by
        by_cases present : first.any (·.sameKey key) = true
        · rw [noteKey, if_pos present, noteKey, if_pos]
          rw [any_foldl_noteKey, present, Bool.or_true]
        · rw [noteKey, if_neg present, List.foldl_append]
          rfl
      rw [List.foldl_cons, ih, step, List.foldl_cons]

/-- Mappings that list the same keys, and in which the same is found, are equal. -/
theorem Distinct.eq_of_keys {left right : Mapping} (distinct : left.Distinct)
    (keys : left.keys = right.keys) (same : ∀ key, left.get? key = right.get? key) :
    left = right := by
  induction left generalizing right with
  | nil => exact (List.map_eq_nil_iff.mp keys.symm).symm
  | cons entry rest ih =>
      cases right with
      | nil => cases keys
      | cons entry' rest' =>
          rcases entry with ⟨key, value⟩
          rcases entry' with ⟨key', value'⟩
          obtain ⟨rfl, others⟩ := List.cons.inj keys
          have distinct' : Distinct ((key, value') :: rest') := by
            rw [distinct_iff] at distinct ⊢
            rwa [← keys]
          have here := same key
          rw [get?_cons, get?_cons, if_pos (Scalar.sameKey_refl _),
            if_pos (Scalar.sameKey_refl _), Option.some.injEq] at here
          obtain rfl : value = value' := here
          congr 1
          refine ih distinct.of_cons others fun other => ?_
          by_cases hit : Scalar.sameKey key other = true
          · -- Neither rest has an entry under the key of the first one.
            rw [distinct.get?_tail hit, distinct'.get?_tail hit]
          · have there := same other
            rwa [get?_cons, get?_cons, if_neg hit, if_neg hit] at there

end Mapping

/-- What a value holds at the end of a path of keys. -/
def Value.atPath? : Value → List Scalar → Option Value
  | value, [] => some value
  | .mapping entries, key :: path => (Mapping.get? entries key).bind fun value => value.atPath? path
  | _, _ :: _ => none

theorem Value.atPath?_cons {value : Value} {key : Scalar} {path : List Scalar} {found : Value}
    (reached : value.atPath? (key :: path) = some found) :
    ∃ entries stored, value = .mapping entries ∧ Mapping.get? entries key = some stored ∧
      stored.atPath? path = some found := by
  cases value with
  | scalar content => cases reached
  | list items => cases reached
  | mapping entries =>
      rcases Option.bind_eq_some_iff.mp reached with ⟨stored, there, further⟩
      exact ⟨entries, stored, rfl, there, further⟩

theorem Value.atPath?_mapping {entries : Mapping} {key : Scalar} {stored : Value}
    (there : entries.get? key = some stored) (path : List Scalar) :
    (Value.mapping entries).atPath? (key :: path) = stored.atPath? path := by
  rw [atPath?, there, Option.bind_some]

namespace Config

/-! ## Mappings and their keys -/

theorem distinct_mergeEntries {base : Mapping} (distinct : base.Distinct) (entries : Mapping) :
    (mergeEntries base entries).Distinct := by
  induction entries generalizing base with
  | nil => exact distinct
  | cons entry rest ih =>
      rw [mergeEntries_cons]
      exact ih (distinct.insert _ _)

/-- The keys of three layers do not depend on how the layers are grouped. -/
theorem keys_grouped (first second third : Mapping) :
    (mergeEntries first (mergeEntries second third)).keys =
      (mergeEntries (mergeEntries first second) third).keys := by
  simp only [keys_mergeEntries]
  exact Mapping.foldl_noteKey_foldl _ _ _

theorem mergeValue_mappings (base entries : Mapping) :
    mergeValue (some (.mapping base)) (.mapping entries) =
      .mapping (mergeEntries base entries) := by
  rw [mergeValue]

theorem mergeValue_into_plain {held : Value} (plain : held.isMapping = false) (value : Value) :
    mergeValue (some held) value = value := by
  cases held with
  | mapping entries => cases plain
  | scalar content => cases value <;> simp [mergeValue]
  | list items => cases value <;> simp [mergeValue]

theorem mergeValue_of_plain {value : Value} (plain : value.isMapping = false)
    (held? : Option Value) : mergeValue held? value = value := by
  refine mergeValue_of_ne_mapping ?_ held?
  rintro entries rfl
  cases plain

theorem exists_entries {value : Value} (mapping : value.isMapping = true) :
    ∃ entries, value = .mapping entries := by
  cases value with
  | mapping entries => exact ⟨entries, rfl⟩
  | _ => cases mapping

/-! ## Values between mappings -/

/-- At the end of a path, a value that is no mapping stands between two mappings. -/
structure Interrupts (first second third : Value) (path : List Scalar)
    (before after : Mapping) : Prop where
  first : first.atPath? path = some (.mapping before)
  second : ∃ value, second.atPath? path = some value ∧ value.isMapping = false
  third : third.atPath? path = some (.mapping after)

/-- Wherever a value stands between two mappings, the later one holds what both merge to. -/
def Absorbs (first second third : Value) : Prop :=
  ∀ path before after, Interrupts first second third path before after →
    mergeEntries before after = after

/-- What comes of three values if the last two are merged ahead of the first one. -/
def lateGroup (first second third : Value) : Value :=
  mergeValue (some first) (mergeValue (some second) third)

/-- What comes of three values if the first two are merged ahead of the last one. -/
def earlyGroup (first second third : Value) : Value :=
  mergeValue (some (mergeValue (some first) second)) third

section Mappings

variable {first second third : Mapping}

theorem Interrupts.under {left middle right : Value} {key : Scalar} {path : List Scalar}
    {before after : Mapping} (inner : Interrupts left middle right path before after)
    (here : first.get? key = some left) (there : second.get? key = some middle)
    (yonder : third.get? key = some right) :
    Interrupts (.mapping first) (.mapping second) (.mapping third) (key :: path) before after where
  first := by rw [Value.atPath?_mapping here, inner.first]
  second := by
    rw [Value.atPath?_mapping there]
    exact inner.second
  third := by rw [Value.atPath?_mapping yonder, inner.third]

/-- Below the top, an interruption is one of the values stored under one key. -/
theorem Interrupts.stored {left middle right : Value} {key : Scalar} {path : List Scalar}
    {before after : Mapping} (outer : Interrupts left middle right (key :: path) before after) :
    ∃ (first second third : Mapping) (here there yonder : Value),
      left = .mapping first ∧ middle = .mapping second ∧ right = .mapping third ∧
        first.get? key = some here ∧ second.get? key = some there ∧
        third.get? key = some yonder ∧ Interrupts here there yonder path before after := by
  rcases outer.second with ⟨value, between, plain⟩
  obtain ⟨first, here, rfl, foundHere, reached⟩ := Value.atPath?_cons outer.first
  obtain ⟨second, there, rfl, foundThere, middle⟩ := Value.atPath?_cons between
  obtain ⟨third, yonder, rfl, foundYonder, last⟩ := Value.atPath?_cons outer.third
  exact ⟨first, second, third, here, there, yonder, rfl, rfl, rfl, foundHere, foundThere,
    foundYonder, reached, ⟨value, middle, plain⟩, last⟩

/-- What is found under a key if the last two of three mappings are merged first. -/
theorem get?_lateGroup (distinct : second.Distinct) (distinct' : third.Distinct) (key : Scalar) :
    (mergeEntries first (mergeEntries second third)).get? key =
      overlaid (first.get? key) (overlaid (second.get? key) (third.get? key)) := by
  rw [get?_mergeEntries (distinct_mergeEntries distinct third), get?_mergeEntries distinct']

theorem get?_earlyGroup (distinct : second.Distinct) (distinct' : third.Distinct) (key : Scalar) :
    (mergeEntries (mergeEntries first second) third).get? key =
      overlaid (overlaid (first.get? key) (second.get? key)) (third.get? key) := by
  rw [get?_mergeEntries distinct', get?_mergeEntries distinct]

/-- Only where all three mappings give a value can the grouping make a difference. -/
theorem overlaid_grouped {first? second? third? : Option Value}
    (settled : ∀ first second third, first? = some first → second? = some second →
      third? = some third → lateGroup first second third = earlyGroup first second third) :
    overlaid first? (overlaid second? third?) = overlaid (overlaid first? second?) third? := by
  cases third? with
  | none => rfl
  | some third =>
      cases second? with
      | none =>
          change some (mergeValue first? (mergeValue none third)) = some (mergeValue first? third)
          rw [mergeValue_none]
      | some second =>
          cases first? with
          | none =>
              change some (mergeValue none (mergeValue (some second) third)) =
                some (mergeValue (some (mergeValue none second)) third)
              rw [mergeValue_none, mergeValue_none]
          | some first => exact congrArg some (settled first second third rfl rfl rfl)

end Mappings

/-! ## Grouping -/

theorem lateGroup_of_plain (first second : Value) {third : Value}
    (plain : third.isMapping = false) :
    lateGroup first second third = earlyGroup first second third := by
  rw [lateGroup, earlyGroup, mergeValue_of_plain plain, mergeValue_of_plain plain,
    mergeValue_of_plain plain]

/-- The grouping makes no difference if every interrupted mapping is absorbed. -/
theorem lateGroup_eq_of_absorbs {first second third : Value} (keyed : first.Keyed)
    (keyed' : second.Keyed) (keyed'' : third.Keyed) (absorbs : Absorbs first second third) :
    lateGroup first second third = earlyGroup first second third := by
  induction third using Value.induction generalizing first second with
  | scalar content => exact lateGroup_of_plain first second rfl
  | list items => exact lateGroup_of_plain first second rfl
  | mapping third ih =>
      rw [lateGroup, earlyGroup]
      cases middle : second.isMapping with
      | false =>
          rw [mergeValue_into_plain middle, mergeValue_of_plain middle,
            mergeValue_into_plain middle]
          cases left : first.isMapping with
          | false => exact mergeValue_into_plain left _
          | true =>
              obtain ⟨before, rfl⟩ := exists_entries left
              rw [mergeValue_mappings]
              congr 1
              exact absorbs [] before third ⟨rfl, ⟨second, rfl, middle⟩, rfl⟩
      | true =>
          obtain ⟨second, rfl⟩ := exists_entries middle
          cases left : first.isMapping with
          | false =>
              rw [mergeValue_into_plain left, mergeValue_into_plain left]
          | true =>
              obtain ⟨first, rfl⟩ := exists_entries left
              simp only [mergeValue_mappings]
              congr 1
              refine (distinct_mergeEntries keyed.distinct _).eq_of_keys
                (keys_grouped first second third) fun key => ?_
              rw [get?_lateGroup keyed'.distinct keyed''.distinct,
                get?_earlyGroup keyed'.distinct keyed''.distinct]
              refine overlaid_grouped fun here there yonder inFirst inSecond inThird => ?_
              rcases Mapping.mem_of_get?_eq_some inThird with ⟨entry, member, -, rfl⟩
              refine ih entry member (keyed.stored inFirst) (keyed'.stored inSecond)
                (keyed''.stored inThird) fun path before after inner => ?_
              exact absorbs _ before after (inner.under inFirst inSecond inThird)

/-- If the grouping makes no difference, every interrupted mapping is absorbed. -/
theorem absorbs_of_lateGroup_eq {first second third : Value} (keyed' : second.Keyed)
    (keyed'' : third.Keyed)
    (same : lateGroup first second third = earlyGroup first second third) :
    Absorbs first second third := by
  intro path
  induction path generalizing first second third with
  | nil =>
      rintro before after ⟨left, ⟨value, between, plain⟩, right⟩
      cases left
      cases between
      cases right
      rw [lateGroup, earlyGroup, mergeValue_into_plain plain, mergeValue_of_plain plain,
        mergeValue_into_plain plain, mergeValue_mappings] at same
      exact Value.mapping.inj same
  | cons key path ih =>
      intro before after outer
      obtain ⟨first, second, third, here, there, yonder, rfl, rfl, rfl, inFirst, inSecond,
        inThird, inner⟩ := outer.stored
      simp only [lateGroup, earlyGroup, mergeValue_mappings] at same
      have found := congrArg (Mapping.get? · key) (Value.mapping.inj same)
      rw [get?_lateGroup keyed'.distinct keyed''.distinct,
        get?_earlyGroup keyed'.distinct keyed''.distinct, inFirst, inSecond, inThird] at found
      exact ih (keyed'.stored inSecond) (keyed''.stored inThird) (Option.some.inj found)
        before after inner

theorem merge_pair {base : Mapping} (distinct : base.Distinct) (entries : Mapping) :
    merge ([base, entries].map .mapping) = .ok (mergeEntries base entries) := by
  rw [merge_mappings, List.foldl_cons, mergeEntries_nil distinct]
  rfl

/--
Three layers are merged in order if the first two of them are merged ahead of the last
one.  If the last two are merged ahead of the first one, the same comes of it, the order of
the keys included, in all situations but one: at the end of some path the second layer
has a value that is no mapping where the first and the last one have mappings, and the
last one does not already hold what those two merge to.
-/
theorem merge_in_groups {first second third : Mapping} (keyed : (Value.mapping first).Keyed)
    (keyed' : (Value.mapping second).Keyed) (keyed'' : (Value.mapping third).Keyed) :
    ∃ merged early late,
      merge ([first, second, third].map .mapping) = .ok merged ∧
      merge ([first, second].map .mapping) = .ok early ∧
      merge ([early, third].map .mapping) = .ok merged ∧
      merge ([second, third].map .mapping) = .ok late ∧
      (merge ([first, late].map .mapping) = .ok merged ↔
        Absorbs (.mapping first) (.mapping second) (.mapping third)) ∧
      ((∀ path before after,
          ¬ Interrupts (.mapping first) (.mapping second) (.mapping third) path before after) →
        merge ([first, late].map .mapping) = .ok merged) := by
  have grouped : merge ([first, mergeEntries second third].map .mapping) =
        .ok (mergeEntries (mergeEntries first second) third) ↔
      Absorbs (.mapping first) (.mapping second) (.mapping third) := by
    rw [merge_pair keyed.distinct, Except.ok.injEq]
    constructor
    · intro same
      refine absorbs_of_lateGroup_eq keyed' keyed'' ?_
      simp only [lateGroup, earlyGroup, mergeValue_mappings, same]
    · intro absorbs
      have same := lateGroup_eq_of_absorbs keyed keyed' keyed'' absorbs
      simp only [lateGroup, earlyGroup, mergeValue_mappings] at same
      exact Value.mapping.inj same
  refine ⟨mergeEntries (mergeEntries first second) third, mergeEntries first second,
    mergeEntries second third, ?_, merge_pair keyed.distinct second,
    merge_pair (distinct_mergeEntries keyed.distinct second) third,
    merge_pair keyed'.distinct third, grouped, fun uninterrupted => grouped.mpr ?_⟩
  · rw [merge_mappings, List.foldl_cons, mergeEntries_nil keyed.distinct]
    rfl
  · intro path before after between
    exact absurd between (uninterrupted path before after)

-- A number between two mappings: the first mapping comes back if the last layers go first.
example :
    merge [.mapping [(.text "sensor", .mapping [(.text "range", .int 5)])],
        .mapping (mergeEntries [(.text "sensor", .int 0)]
          [(.text "sensor", .mapping [(.text "rate", .int 2)])])] =
      .ok [(.text "sensor", .mapping [(.text "range", .int 5), (.text "rate", .int 2)])] := by
  rfl

/-- A layer that names a sensor and leaves its frame open. -/
def sensorLayer : Mapping :=
  [(.text "sensor", .mapping [(.text "range", .int 5)]), (.text "frame", .null)]

/-- A layer that adds to the sensor and names the frame. -/
def mountLayer : Mapping :=
  [(.text "sensor", .mapping [(.text "rate", .float 2.0)]), (.text "frame", .text "map")]

/-- A layer that overrides both, the frame by a mapping. -/
def fieldLayer : Mapping :=
  [(.text "frame", .mapping [(.text "id", .int 1)]),
    (.text "sensor", .mapping [(.text "range", .int 7)])]

/-- The frame is no mapping in the first layer, so the last two layers may go first. -/
theorem fieldLayer_first :
    (Value.mapping sensorLayer).Keyed ∧ (Value.mapping mountLayer).Keyed ∧
      (Value.mapping fieldLayer).Keyed ∧
      (∀ path before after, ¬ Interrupts (.mapping sensorLayer) (.mapping mountLayer)
        (.mapping fieldLayer) path before after) ∧
      ∃ late, merge ([mountLayer, fieldLayer].map .mapping) = .ok late ∧
        merge ([sensorLayer, late].map .mapping) =
          merge ([sensorLayer, mountLayer, fieldLayer].map .mapping) := by
  have keyed : (Value.mapping sensorLayer).Keyed := by
    simp [sensorLayer, Mapping.Distinct]
  have keyed' : (Value.mapping mountLayer).Keyed := by
    simp [mountLayer, Mapping.Distinct]
  have keyed'' : (Value.mapping fieldLayer).Keyed := by
    simp [fieldLayer, Mapping.Distinct]
  have uninterrupted : ∀ path before after, ¬ Interrupts (.mapping sensorLayer)
      (.mapping mountLayer) (.mapping fieldLayer) path before after := by
    intro path before after between
    rcases between with ⟨left, ⟨value, middle, plain⟩, -⟩
    cases path with
    | nil =>
        cases middle
        cases plain
    | cons key path =>
        by_cases sensor : Scalar.sameKey (.text "sensor") key = true
        · cases path with
          | nil =>
              -- The second layer has a mapping for the sensor.
              simp [Value.atPath?, mountLayer, Mapping.get?_cons, sensor] at middle
              subst middle
              cases plain
          | cons inner path =>
              -- The first layer has no mapping below the sensor.
              by_cases range : Scalar.sameKey (.text "range") inner = true <;>
                cases path <;>
                simp [Value.atPath?, sensorLayer, Mapping.get?_cons, sensor, range] at left
        · by_cases frame : Scalar.sameKey (.text "frame") key = true <;>
            cases path <;>
            simp [Value.atPath?, sensorLayer, Mapping.get?_cons, sensor, frame] at left
  obtain ⟨merged, early, late, inOrder, -, -, grouped, -, same⟩ :=
    merge_in_groups keyed keyed' keyed''
  exact ⟨keyed, keyed', keyed'', uninterrupted, late, grouped,
    (same uninterrupted).trans inOrder.symm⟩

end Config

end MapIngest
