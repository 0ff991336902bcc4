import Mathlib.Data.List.Perm.Basic
import Mathlib.Data.List.Nodup
import MapIngest.Proofs.Config.Agreement

/-!
# Two spellings of the engine's parameters

A parameter of the engine is given flat or nested, and the flat value is taken if it is
given in both ways.  What is found in the two parts that a namespace is divided into
depends only on what is taken for the engine and on the rest of the namespace.

Mappings in which the same is found are built alike.  If the keys of one of them are all
texts, then the two have the same entries, and the issues of those that are no field
differ in their order only.  Namespaces that differ in the spelling of the engine's
parameters are therefore read alike, down to the order of issues.
-/

namespace MapIngest

theorem Scalar.sameKey_text_iff {key : Scalar} {name : String} :
    key.sameKey (.text name) = true ↔ key = .text name := by
  rw [sameKey_iff]
  constructor
  · intro same
    cases key with
    | text content => exact same
    | float number =>
        rw [canonical] at same
        split at same <;> cases same
    | _ => cases same
  · rintro rfl
    rfl

theorem Scalar.sameKey_text_eq_false {key : Scalar} {name : String} (other : key ≠ .text name) :
    Scalar.sameKey (.text name) key = false := by
  rw [sameKey_comm, Bool.eq_false_iff, Ne, sameKey_text_iff]
  exact other

namespace Mapping

/-! ## Rearranged mappings -/

/-- The same is found in two mappings with distinct keys, in whatever order they list it. -/
structure Rearranges (given other : Mapping) : Prop where
  distinct : given.Distinct
  distinct' : other.Distinct
  same : ∀ key, given.get? key = other.get? key

theorem Distinct.nodup {entries : Mapping} (distinct : entries.Distinct) : entries.Nodup :=
  List.Pairwise.imp (fun apart same => by simp [same] at apart) distinct

theorem Textual.get?_eq_none {entries : Mapping} (textual : entries.Textual) {key : Scalar}
    (foreign : ∀ name, key ≠ .text name) : entries.get? key = none := by
  rw [get?_eq_none_iff]
  intro entry member
  rcases textual entry member with ⟨name, text⟩
  rw [text, Scalar.sameKey_text_eq_false (foreign name)]

namespace Rearranges

variable {given other : Mapping}

theorem of_textual (distinct : given.Distinct) (distinct' : other.Distinct)
    (textual : given.Textual) (textual' : other.Textual)
    (same : ∀ name, given.named? name = other.named? name) : given.Rearranges other := by
  refine ⟨distinct, distinct', fun key => ?_⟩
  by_cases named : ∃ name, key = .text name
  · rcases named with ⟨name, rfl⟩
    exact same name
  · rw [not_exists] at named
    rw [textual.get?_eq_none named, textual'.get?_eq_none named]

theorem symm (rearranges : given.Rearranges other) : other.Rearranges given :=
  ⟨rearranges.distinct', rearranges.distinct, fun key => (rearranges.same key).symm⟩

theorem insert (rearranges : given.Rearranges other) (key : Scalar) (value : Value) :
    (given.insert key value).Rearranges (other.insert key value) where
  distinct := rearranges.distinct.insert key value
  distinct' := rearranges.distinct'.insert key value
  same name := by rw [get?_insert, get?_insert, rearranges.same]

/-- If the keys of one mapping are all texts, then so are those of the other. -/
theorem textual (rearranges : given.Rearranges other) (textual : given.Textual) :
    other.Textual := by
  intro entry member
  have found := rearranges.distinct'.get?_of_mem member
  rw [← rearranges.same] at found
  rcases mem_of_get?_eq_some found with ⟨stored, inside, same, -⟩
  rcases textual stored inside with ⟨name, text⟩
  rw [text, Scalar.sameKey_comm, Scalar.sameKey_text_iff] at same
  exact ⟨name, same⟩

theorem textual_iff (rearranges : given.Rearranges other) : given.Textual ↔ other.Textual :=
  ⟨rearranges.textual, rearranges.symm.textual⟩

theorem mem_of_textual (rearranges : given.Rearranges other) (textual : given.Textual)
    {entry : Scalar × Value} (member : entry ∈ given) : entry ∈ other := by
  have found := rearranges.distinct.get?_of_mem member
  rw [rearranges.same] at found
  rcases mem_of_get?_eq_some found with ⟨stored, inside, same, value⟩
  rcases textual entry member with ⟨name, text⟩
  rw [text, Scalar.sameKey_text_iff, ← text] at same
  rwa [← Prod.ext same value]

/-- Mappings of texts in which the same is found list the same entries. -/
theorem perm (rearranges : given.Rearranges other) (textual : given.Textual) :
    given.Perm other :=
  (List.perm_ext_iff_of_nodup rearranges.distinct.nodup rearranges.distinct'.nodup).mpr
    fun _ => ⟨rearranges.mem_of_textual textual,
      rearranges.symm.mem_of_textual (rearranges.textual textual)⟩

end Rearranges

theorem textual_of_names? {entries : Mapping} {names : List String}
    (found : entries.names? = some names) : entries.Textual := by
  induction entries generalizing names with
  | nil => exact textual_nil
  | cons entry rest ih =>
      rcases entry with ⟨key, value⟩
      cases key with
      | text name =>
          rw [names?_cons_text, Option.map_eq_some_iff] at found
          rcases found with ⟨others, found, -⟩
          exact (ih found).cons name value
      | _ =>
          rw [names?, List.mapM_cons] at found
          cases found

end Mapping

namespace Config

variable {α ρ : Type}

/-! ## Outcomes up to the order of issues -/

/-- Two outcomes are equal, or reports on one record with the same issues in some order. -/
inductive SameOutcome : Except Fault α → Except Fault α → Prop
  | equal (outcome : Except Fault α) : SameOutcome outcome outcome
  | reordered (record : String) {issues issues' : List Issue} (perm : issues.Perm issues') :
      SameOutcome (.error (.invalid ⟨record, issues⟩)) (.error (.invalid ⟨record, issues'⟩))

/-- What follows an outcome keeps outcomes the same. -/
theorem SameOutcome.bind {β : Type} {first first' : Except Fault α}
    (same : SameOutcome first first') {next next' : α → Except Fault β}
    (nexts : ∀ value, SameOutcome (next value) (next' value)) :
    SameOutcome (first >>= next) (first' >>= next') := by
  cases same with
  | equal =>
      cases first with
      | ok value => exact nexts value
      | error fault => exact .equal _
  | reordered record perm => exact .reordered record perm

/-! ## Records built from rearranged mappings -/

theorem buildNamed_of_not_textual {given : Mapping} (other : ¬ given.Textual)
    (build : Mapping → Except Report ρ) :
    buildNamed build given = Value.refuse .nameSort := by
  rw [buildNamed]
  cases found : given.names? with
  | none => rfl
  | some names => exact (other (Mapping.textual_of_names? found)).elim

section Build

variable {given other : Mapping} (rearranges : given.Rearranges other)

include rearranges

theorem Schema.build_rearranged (schema : Schema ρ) (blank : ρ) (textual : given.Textual) :
    SameOutcome (Report.refused (schema.build blank given))
      (Report.refused (schema.build blank other)) := by
  have strangers := (rearranges.perm textual).filterMap schema.strangerIssue?
  have read : schema.readFields given blank = schema.readFields other blank :=
    readFields_congr (fun field _ => rearranges.same (.text field.name)) blank
  rw [build, build, ← read]
  rcases schema.readFields given blank with ⟨record, issues⟩
  have found := strangers.append_left issues
  dsimp only
  generalize issues ++ given.filterMap schema.strangerIssue? = listed at found
  generalize issues ++ other.filterMap schema.strangerIssue? = listed' at found
  cases listed with
  | nil =>
      obtain rfl := found.nil_eq
      exact .equal _
  | cons issue rest =>
      cases listed' with
      | nil => cases found.eq_nil
      | cons issue' rest' => exact .reordered _ found

theorem buildNamed_rearranged (schema : Schema ρ) (blank : ρ) :
    SameOutcome (buildNamed (schema.build blank) given)
      (buildNamed (schema.build blank) other) := by
  by_cases textual : given.Textual
  · rw [buildNamed_of_textual textual, buildNamed_of_textual (rearranges.textual textual)]
    exact schema.build_rearranged rearranges blank textual
  · rw [buildNamed_of_not_textual textual, buildNamed_of_not_textual
      (rearranges.textual_iff.not.mp textual)]
    exact .equal _

end Build

/-! ## Divisions in which the same is found -/

namespace Division

/-- The keys of both parts are distinct, and those of the engine's part are texts. -/
structure Sound (division : Division) : Prop where
  manager : division.manager.Distinct
  engine : division.engine.Distinct
  textual : division.engine.Textual

theorem Sound.moveFlat {division : Division} (sound : division.Sound) (name : String) :
    (division.moveFlat name).Sound := by
  rw [Division.moveFlat]
  split
  · exact ⟨sound.manager.erase _, sound.engine.insert _ _, sound.textual.insert _ _⟩
  · exact sound

theorem Sound.foldl {division : Division} (sound : division.Sound) (names : List String) :
    (names.foldl Division.moveFlat division).Sound := by
  induction names generalizing division with
  | nil => exact sound
  | cons name rest ih => exact ih (sound.moveFlat name)

/-- Moving parameters leaves what is found under a key that is no text. -/
theorem get?_manager_moveFlat (division : Division) (name : String) {key : Scalar}
    (other : key ≠ .text name) :
    (division.moveFlat name).manager.get? key = division.manager.get? key := by
  rw [moveFlat]
  split
  · rw [Mapping.get?_erase, Scalar.sameKey_text_eq_false other, if_neg Bool.false_ne_true]
  · rfl

theorem get?_manager_foldl (names : List String) (division : Division) {key : Scalar}
    (foreign : ∀ name ∈ names, key ≠ .text name) :
    (names.foldl moveFlat division).manager.get? key = division.manager.get? key := by
  induction names generalizing division with
  | nil => rfl
  | cons name rest ih =>
      rcases List.forall_mem_cons.mp foreign with ⟨first, others⟩
      rw [List.foldl_cons, ih _ others, get?_manager_moveFlat division name first]

/-- The same is found in both parts of two divisions. -/
structure Rearranges (given other : Division) : Prop where
  manager : given.manager.Rearranges other.manager
  engine : given.engine.Rearranges other.engine

namespace Rearranges

variable {given other : Division}

/-- Clearing an empty matrix fails in both, with the same failure, or in neither. -/
theorem clear (rearranges : given.Rearranges other) :
    (∃ fault, given.clearEmptyMatrix = .error fault ∧ other.clearEmptyMatrix = .error fault) ∨
      ∃ cleared cleared', given.clearEmptyMatrix = .ok cleared ∧
        other.clearEmptyMatrix = .ok cleared' ∧ cleared.Rearranges cleared' := by
  have decided : given.hasEmptyMatrix = other.hasEmptyMatrix := by
    rw [hasEmptyMatrix, hasEmptyMatrix, Mapping.named?, rearranges.manager.same]
    rfl
  rw [clearEmptyMatrix, clearEmptyMatrix, ← decided]
  cases given.hasEmptyMatrix with
  | error fault => exact Or.inl ⟨fault, rfl, rfl⟩
  | ok empty =>
      refine Or.inr ?_
      cases empty with
      | false => exact ⟨given, other, rfl, rfl, rearranges⟩
      | true =>
          exact ⟨_, _, rfl, rfl, ⟨rearranges.manager.insert _ _, rearranges.engine⟩⟩

theorem build (rearranges : given.Rearranges other) : SameOutcome given.build other.build := by
  rw [Division.build, Division.build]
  refine (buildNamed_rearranged rearranges.engine EngineParams.schema {}).bind fun engine => ?_
  exact buildNamed_rearranged rearranges.manager ManagerParams.ownSchema { engine := engine }

end Rearranges

end Division

/-! ## The two spellings -/

/-- The names that a namespace gives to the engine, with the one that nests them. -/
def engineNames : List String :=
  ManagerParams.engineName :: EngineParams.schema.names

/-- What a namespace gives for a name to the engine: the flat value, or else the nested one. -/
def engineSetting? (given nested : Mapping) (name : String) : Option Value :=
  (if name ∈ EngineParams.schema.names then given.named? name else none).or (nested.named? name)

/-- A namespace with distinct keys, the nested entry of which is read as a mapping of names. -/
structure Spells (given nested : Mapping) : Prop where
  distinct : given.Distinct
  read : Division.nested given = .ok nested
  distinct' : nested.Distinct
  textual : nested.Textual

/-- The same is found in two namespaces apart from what they give to the engine. -/
def SameRest (given other : Mapping) : Prop :=
  ∀ key, (∀ name ∈ engineNames, key ≠ .text name) → given.get? key = other.get? key

namespace Division

/-- The two parts of a namespace whose nested entry is read. -/
def parts (given nested : Mapping) : Division :=
  EngineParams.schema.names.foldl moveFlat ⟨given.erase (.text ManagerParams.engineName), nested⟩

variable (given nested : Mapping)

theorem named?_manager_parts {name : String} (known : name ∈ engineNames) :
    (parts given nested).manager.named? name = none := by
  rw [parts, named?_manager_foldl, Mapping.named?_erase]
  rcases List.mem_cons.mp known with rfl | inside
  · simp
  · rw [if_pos inside]

theorem get?_manager_parts {key : Scalar} (foreign : ∀ name ∈ engineNames, key ≠ .text name) :
    (parts given nested).manager.get? key = given.get? key := by
  rcases List.forall_mem_cons.mp foreign with ⟨first, others⟩
  rw [parts, get?_manager_foldl _ _ others, Mapping.get?_erase,
    Scalar.sameKey_text_eq_false first, if_neg Bool.false_ne_true]

theorem named?_engine_parts (name : String) :
    (parts given nested).engine.named? name = engineSetting? given nested name := by
  rw [parts, named?_engine_foldl EngineParams.names_nodup, engineSetting?]
  split
  next known =>
    rw [Mapping.named?_erase, if_neg (Ne.symm (ManagerParams.names_apart.2.2 name known))]
  next => rfl

end Division

section Spelled

variable {given other nested nested' : Mapping}

namespace Spells

theorem ofNamespace_eq (spells : Spells given nested) :
    Division.ofNamespace given = .ok (Division.parts given nested) :=
  Division.ofNamespace_eq_ok_iff.mpr ⟨nested, spells.read, rfl⟩

theorem sound (spells : Spells given nested) : (Division.parts given nested).Sound :=
  Division.Sound.foldl ⟨spells.distinct.erase _, spells.distinct', spells.textual⟩ _

/-- Namespaces that give the same to the engine and have the same rest divide alike. -/
theorem rearranges (spells : Spells given nested) (spells' : Spells other nested')
    (rest : SameRest given other)
    (engine : ∀ name, engineSetting? given nested name = engineSetting? other nested' name) :
    (Division.parts given nested).Rearranges (Division.parts other nested') where
  manager := by
    refine ⟨spells.sound.manager, spells'.sound.manager, fun key => ?_⟩
    -- What goes to the engine is taken out of both, and nothing else is touched.
    by_cases known : ∃ name ∈ engineNames, key = .text name
    · rcases known with ⟨name, inside, rfl⟩
      exact (Division.named?_manager_parts given nested inside).trans
        (Division.named?_manager_parts other nested' inside).symm
    · have foreign : ∀ name ∈ engineNames, key ≠ .text name :=
        fun name inside same => known ⟨name, inside, same⟩
      rw [Division.get?_manager_parts given nested foreign,
        Division.get?_manager_parts other nested' foreign]
      exact rest key foreign
  engine := by
    refine Mapping.Rearranges.of_textual spells.sound.engine spells'.sound.engine
      spells.sound.textual spells'.sound.textual fun name => ?_
    rw [Division.named?_engine_parts, Division.named?_engine_parts, engine]

end Spells

/--
Let two namespaces give the same to the engine, where a flat value overrides a nested
one, and let the same be found in the rest of both.  Then both are read with equal
parameters, or both are refused by a report on the same record with the same issues, or
both fail with the same failure.
-/
theorem ofNamespace_respelled (spells : Spells given nested) (spells' : Spells other nested')
    (rest : SameRest given other)
    (engine : ∀ name, engineSetting? given nested name = engineSetting? other nested' name) :
    SameOutcome (ManagerParams.ofNamespace given) (ManagerParams.ofNamespace other) := by
  have alike := spells.rearranges spells' rest engine
  rw [ManagerParams.ofNamespace, ManagerParams.ofNamespace, spells.ofNamespace_eq,
    spells'.ofNamespace_eq, ok_bind, ok_bind]
  rcases alike.clear with ⟨fault, failed, failed'⟩ | ⟨cleared, cleared', clear, clear', same⟩
  · rw [failed, failed']
    exact .equal _
  · rw [clear, clear', ok_bind, ok_bind]
    exact same.build

end Spelled

/-- One of two parameters of the engine, and a foreign name. -/
def scatteredNested : Mapping :=
  [(.text "resolution", .float 0.1), (.text "colour", .int 1)]

/-- The other parameter stands flat, and the first one is also given flat. -/
def scattered : Mapping :=
  [(.text "probability_hit", .text "0.7"), (.text "tf_frame", .text ""),
    (.text "octomap", .mapping scatteredNested), (.text "resolution", .float (-0.5))]

/-- The same two parameters with the values that count, and the foreign name. -/
def gatheredNested : Mapping :=
  [(.text "colour", .int 1), (.text "resolution", .float (-0.5)),
    (.text "probability_hit", .text "0.7")]

/-- All that goes to the engine is nested. -/
def gathered : Mapping :=
  [(.text "octomap", .mapping gatheredNested), (.text "tf_frame", .text "")]

theorem scattered_spells : Spells scattered scatteredNested where
  distinct := by simp [scattered, Mapping.Distinct]
  read := rfl
  distinct' := by simp [scatteredNested, Mapping.Distinct]
  textual := (Mapping.textual_nil.cons _ _).cons _ _

theorem gathered_spells : Spells gathered gatheredNested where
  distinct := by simp [gathered, Mapping.Distinct]
  read := rfl
  distinct' := by simp [gatheredNested, Mapping.Distinct]
  textual := ((Mapping.textual_nil.cons _ _).cons _ _).cons _ _

/-- Scattered and gathered, a rejected value and a foreign name are reported alike. -/
theorem scattered_as_gathered :
    SameRest scattered gathered ∧
      (∀ name, engineSetting? scattered scatteredNested name =
        engineSetting? gathered gatheredNested name) ∧
      SameOutcome (ManagerParams.ofNamespace scattered) (ManagerParams.ofNamespace gathered) := by
  have rest : SameRest scattered gathered := by
    intro key foreign
    have apart : ∀ name ∈ engineNames, Scalar.sameKey (.text name) key = false :=
      fun name known => Scalar.sameKey_text_eq_false (foreign name known)
    have hit := apart "probability_hit" (by decide)
    have nested := apart "octomap" (by decide)
    have resolution := apart "resolution" (by decide)
    simp [scattered, gathered, Mapping.get?_cons, hit, nested, resolution]
  have engine : ∀ name, engineSetting? scattered scatteredNested name =
      engineSetting? gathered gatheredNested name := by
    intro name
    by_cases used : ∃ known ∈ ["probability_hit", "tf_frame", "octomap", "resolution", "colour"],
        known = name
    · rcases used with ⟨known, among, rfl⟩
      simp only [List.mem_cons, List.not_mem_nil, or_false] at among
      rcases among with rfl | rfl | rfl | rfl | rfl <;> rfl
    · simp only [List.mem_cons, List.not_mem_nil, or_false, exists_eq_or_imp, exists_eq_left,
        not_or] at used
      simp [engineSetting?, scattered, scatteredNested, gathered, gatheredNested,
        Mapping.named?_cons_text, used]
  exact ⟨rest, engine,
    ofNamespace_respelled scattered_spells gathered_spells rest engine⟩

end Config

end MapIngest
