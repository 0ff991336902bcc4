import MapIngest.Config.Parameters
import MapIngest.Proofs.Config.Agreement
import MapIngest.Proofs.Config.Precedence

/-!
# Routes to one configuration

Parameters reach the manager by three routes: as overrides, in a file under the name of a
section, and as the parameters of a node.  The first two always end alike, since a
namespace without repeated keys is merged into nothing as it is.

A node takes a matrix apart into its items before it is read.  This makes no difference
to a list, and a matrix without items or without any item ends alike on every route.
Every other matrix is refused elsewhere, but on a node the list of its items takes its
place and may well be accepted.  That is the only way in which the routes part.
-/

namespace MapIngest

/-- Two computations return the same value, or fail with faults of one kind. -/
inductive Alike {α : Type} : Except Fault α → Except Fault α → Prop where
  | returned (value : α) : Alike (.ok value) (.ok value)
  | failed {first second : Fault} (kind : first.kind = second.kind) :
      Alike (.error first) (.error second)

theorem Alike.refl {α : Type} (outcome : Except Fault α) : Alike outcome outcome := by
  cases outcome with
  | ok value => exact .returned value
  | error fault => exact .failed rfl

namespace Config

/-- A namespace gives known parameters, each of them once, and none of them as null. -/
structure IsPlain (given : Mapping) : Prop where
  known : ∀ entry ∈ given, ∃ name ∈ ManagerParams.names, entry.1 = .text name
  distinct : given.Distinct
  filled : ∀ entry ∈ given, entry.2 ≠ .null

namespace IsPlain

variable {given : Mapping}

theorem flat (plain : IsPlain given) : IsFlat given where
  textual entry member := by
    rcases plain.known entry member with ⟨name, -, key⟩
    exact ⟨name, key⟩
  known name foreign := by
    rw [Mapping.named?, Mapping.get?_eq_none_iff]
    intro entry member
    rcases plain.known entry member with ⟨other, inside, key⟩
    rw [key, Scalar.sameKey_text, beq_eq_false_iff_ne]
    rintro rfl
    exact foreign inside

theorem ne_null (plain : IsPlain given) {name : String} {value : Value}
    (found : given.named? name = some value) : value ≠ .null := by
  rw [Mapping.named?, Mapping.get?, Option.map_eq_some_iff] at found
  rcases found with ⟨entry, first, rfl⟩
  exact plain.filled entry (List.mem_of_find?_eq_some first)

end IsPlain

/-! ## Overrides and files -/

/-- Entries with keys of their own are merged by adding them at the end. -/
theorem mergeEntries_of_distinct {base entries : Mapping}
    (distinct : Mapping.Distinct (base ++ entries)) :
    mergeEntries base entries = base ++ entries := by
  induction entries generalizing base with
  | nil =>
      rw [mergeEntries, List.append_nil]
  | cons entry rest ih =>
      rcases entry with ⟨key, value⟩
      have absent : base.get? key = none := by
        rw [Mapping.get?_eq_none_iff]
        intro earlier member
        exact (List.pairwise_append.mp distinct).2.2 earlier member _ List.mem_cons_self
      have merged : mergeValue none value = value := by
        cases value <;> rfl
      rw [mergeEntries_cons, absent, merged, Mapping.insert_of_absent absent, ih]
      · rw [List.append_assoc, List.singleton_append]
      · rwa [List.append_assoc, List.singleton_append]

/-- A document that gives parameters in one section. -/
def wrapped (name : String) (given : Mapping) : Value :=
  .mapping [(.text name, .mapping [(.text parametersName, .mapping given)])]

theorem nodeSection_wrapped {name : String} (known : name ∈ sectionNames) (given : Mapping) :
    nodeSection (wrapped name given) = .ok given := by
  have taken : (Value.mapping given).toMappingOrEmpty = .ok given := by
    cases given with
    | nil => rfl
    | cons entry rest => rfl
  rw [sectionNames, List.mem_cons, List.mem_singleton] at known
  rcases known with rfl | rfl
  · exact taken
  · exact taken

theorem fileSection_wrapped {files : Files} {path name : String} {given : Mapping}
    (filled : path ≠ "") (known : name ∈ sectionNames)
    (loaded : files.load path = .ok (wrapped name given)) :
    fileSection files (some path) = .ok given := by
  rw [fileSection, if_neg (by simpa using filled), loaded]
  exact nodeSection_wrapped known given

namespace Sources

variable {sources : Sources} {files : Files} {base preset overrides : Mapping}

/-- Sources of which one layer only sets anything are read from that layer. -/
theorem Give.load_eq (give : sources.Give files base preset overrides) {given : Mapping}
    (single : base ++ preset ++ overrides = given) (distinct : given.Distinct) :
    sources.load files = ManagerParams.ofNamespace given := by
  subst single
  have first : mergeEntries [] base = base :=
    mergeEntries_of_distinct (distinct.sublist (by simp))
  have second : mergeEntries base preset = base ++ preset :=
    mergeEntries_of_distinct (distinct.sublist (by simp))
  rw [load, give.merged_eq, ok_bind, List.foldl_cons, List.foldl_cons, List.foldl_cons,
    List.foldl_nil, first, second, mergeEntries_of_distinct distinct]

theorem load_overrides {given : Mapping} (distinct : given.Distinct) (files : Files) :
    ({ overrides := .mapping given } : Sources).load files = ManagerParams.ofNamespace given := by
  have give : ({ overrides := .mapping given } : Sources).Give files [] [] given :=
    ⟨rfl, rfl, Or.inl rfl⟩
  exact give.load_eq rfl distinct

end Sources

/-! ## Parameters of a node -/

section Gathering

variable {held gathered : Mapping} {names : List String}

/-- What is found in the gathered values is what the node gives for each of the names. -/
theorem named?_gather (done : gather held names = .ok gathered) :
    gathered.Textual ∧ ∀ name, (name ∈ names → heldValue? held name = .ok (gathered.named? name)) ∧
      (name ∉ names → gathered.named? name = none) := by
  induction names generalizing gathered with
  | nil =>
      cases done
      exact ⟨Mapping.textual_nil, fun name => ⟨(absurd · List.not_mem_nil), fun _ => rfl⟩⟩
  | cons first rest ih =>
      rw [gather] at done
      rcases bind_eq_ok.mp done with ⟨value?, taken, done⟩
      rcases bind_eq_ok.mp done with ⟨others, later, done⟩
      rcases ih later with ⟨textual, found⟩
      cases value? with
      | none =>
          cases done
          -- The name may come again in the rest; if it does not, nothing is found under it.
          refine ⟨textual, fun name => ⟨?_, fun foreign => (found name).2 ?_⟩⟩
          · intro member
            by_cases inside : name ∈ rest
            · exact (found name).1 inside
            · rw [(found name).2 inside]
              obtain rfl : name = first := (List.mem_cons.mp member).resolve_right inside
              exact taken
          · exact fun inside => foreign (List.mem_cons_of_mem _ inside)
      | some value =>
          cases done
          refine ⟨textual.cons first value, fun name => ⟨?_, ?_⟩⟩
          · intro member
            rw [Mapping.named?_cons_text]
            split
            next same =>
              subst same
              exact taken
            next other =>
              exact (found name).1 ((List.mem_cons.mp member).resolve_left (Ne.symm other))
          · intro foreign
            rcases List.ne_and_not_mem_of_not_mem_cons foreign with ⟨other, outside⟩
            rw [Mapping.named?_cons_text, if_neg (Ne.symm other)]
            exact (found name).2 outside

/-- Gathering fails only where one of the values does. -/
theorem heldValue?_of_gather_error {fault : Fault} (failed : gather held names = .error fault) :
    ∃ name ∈ names, heldValue? held name = .error fault := by
  induction names with
  | nil => cases failed
  | cons first rest ih =>
      rw [gather] at failed
      cases taken : heldValue? held first with
      | error earlier =>
          rw [taken] at failed
          cases failed
          exact ⟨first, List.mem_cons_self, taken⟩
      | ok value? =>
          rw [taken, ok_bind] at failed
          cases later : gather held rest with
          | error earlier =>
              rw [later] at failed
              cases failed
              rcases ih later with ⟨name, inside, same⟩
              exact ⟨name, List.mem_cons_of_mem _ inside, same⟩
          | ok others =>
              rw [later, ok_bind] at failed
              cases value? <;> cases failed

theorem matrix_gathered (done : gather held ManagerParams.names = .ok gathered) :
    heldValue? held ManagerParams.matrixField.name =
      .ok (gathered.named? ManagerParams.matrixField.name) :=
  ((named?_gather done).2 _).1 (by decide)

end Gathering

theorem validate_eq (held : Mapping) :
    (validate held).1 = gather held ManagerParams.names >>= ManagerParams.ofNamespace := by
  rw [validate]
  cases gather held ManagerParams.names with
  | error fault => rfl
  | ok gathered =>
      rw [ok_bind]
      dsimp only
      split
      next refused => rw [refused]
      next => rfl

theorem kind_of_items {value : Value} {fault : Fault} (failed : value.items = .error fault) :
    fault.kind = .type := by
  cases value with
  | list contents => cases failed
  | mapping entries => cases failed
  | scalar content =>
      cases content with
      | text content => cases failed
      | bytes content => cases failed
      | _ =>
          cases failed
          rfl

theorem length_of_items {value : Value} {items : List Value} (taken : value.items = .ok items) :
    value.length = .ok items.length := by
  rw [Value.length, taken]

theorem length_of_itemless {value : Value} {fault : Fault} (failed : value.items = .error fault) :
    ∃ other, value.length = .error other ∧ other.kind = .type := by
  rw [Value.length, failed]
  exact ⟨_, rfl, rfl⟩

/-- A namespace with a list of items in place of the matrix. -/
def spread (given : Mapping) (items : List Value) : Mapping :=
  given.insert (.text ManagerParams.matrixField.name) (.list items)

section Spread

variable {given : Mapping} (items : List Value)

theorem named?_spread (name : String) :
    (spread given items).named? name =
      if ManagerParams.matrixField.name = name then some (.list items)
      else given.named? name :=
  Mapping.named?_insert _ _ _ _

theorem IsFlat.spread (flat : IsFlat given) : IsFlat (spread given items) where
  textual := flat.textual.insert _ _
  known name foreign := by
    rw [named?_spread, if_neg]
    · exact flat.known name foreign
    · rintro rfl
      exact foreign (by decide)

theorem measured_spread : Measured (spread given items) := by
  intro value found
  rw [named?_spread, if_pos rfl] at found
  cases found
  exact Or.inr ⟨items.length, rfl⟩

end Spread

namespace IsPlain

variable {given gathered : Mapping}

/-- Every value but the matrix is taken from the node as it is. -/
theorem heldValue?_eq (plain : IsPlain given) {name : String}
    (other : name ≠ ManagerParams.matrixField.name) :
    heldValue? given name = .ok (given.named? name) := by
  rw [heldValue?]
  split
  next absent => rw [absent]
  next null => exact (plain.ne_null null rfl).elim
  next value _ found => rw [if_neg other, found]

theorem heldValue?_matrix (plain : IsPlain given) {value : Value}
    (found : given.named? ManagerParams.matrixField.name = some value) :
    heldValue? given ManagerParams.matrixField.name =
      value.items.map fun contents => some (.list contents) := by
  rw [heldValue?, found]
  split
  next absent => cases absent
  next null => exact (plain.ne_null found (Option.some.inj null)).elim
  next equal =>
    cases equal
    rw [if_pos rfl]

theorem named?_gathered (plain : IsPlain given)
    (done : gather given ManagerParams.names = .ok gathered) {name : String}
    (other : name ≠ ManagerParams.matrixField.name) :
    gathered.named? name = given.named? name := by
  rcases named?_gather done with ⟨-, found⟩
  by_cases inside : name ∈ ManagerParams.names
  · have taken := (found name).1 inside
    rw [plain.heldValue?_eq other] at taken
    exact (Except.ok.inj taken).symm
  · rw [(found name).2 inside, plain.flat.known name inside]

/-- Gathering fails only with the failure of the matrix. -/
theorem matrix_of_gather_error (plain : IsPlain given) {fault : Fault}
    (failed : gather given ManagerParams.names = .error fault) :
    heldValue? given ManagerParams.matrixField.name = .error fault := by
  rcases heldValue?_of_gather_error failed with ⟨name, -, taken⟩
  by_cases same : name = ManagerParams.matrixField.name
  · rwa [same] at taken
  · rw [plain.heldValue?_eq same] at taken
    cases taken

/-- Gathering changes the matrix alone. -/
theorem exists_gather (plain : IsPlain given) {matrix? : Option Value}
    (held : heldValue? given ManagerParams.matrixField.name = .ok matrix?) :
    ∃ gathered, gather given ManagerParams.names = .ok gathered ∧ IsFlat gathered ∧
      ∀ name, gathered.named? name =
        if ManagerParams.matrixField.name = name then matrix? else given.named? name := by
  cases done : gather given ManagerParams.names with
  | error fault =>
      rw [plain.matrix_of_gather_error done] at held
      cases held
  | ok gathered =>
      rw [matrix_gathered done, Except.ok.injEq] at held
      rcases named?_gather done with ⟨textual, found⟩
      refine ⟨gathered, rfl, ⟨textual, fun name foreign => (found name).2 foreign⟩, ?_⟩
      intro name
      split
      next asked => rw [← asked, held]
      next other => exact plain.named?_gathered done (Ne.symm other)

/-- A node is read like any namespace with the same look-ups as what it gathers. -/
theorem validate_eq_ofNamespace (plain : IsPlain given) {matrix? : Option Value}
    (held : heldValue? given ManagerParams.matrixField.name = .ok matrix?) {other : Mapping}
    (flat : IsFlat other) (measured : Measured other)
    (same : ∀ name, other.named? name =
      if ManagerParams.matrixField.name = name then matrix? else given.named? name) :
    (validate given).1 = ManagerParams.ofNamespace other := by
  rcases plain.exists_gather held with ⟨gathered, done, gatheredFlat, found⟩
  have alike : ∀ name, gathered.named? name = other.named? name := by
    intro name
    rw [found, same]
  rw [validate_eq, done, ok_bind]
  refine gatheredFlat.ofNamespace_congr flat ?_ measured fun name => by rw [alike]
  intro value taken
  rw [alike] at taken
  exact measured value taken

/-- Without a matrix a node is read like its namespace. -/
theorem validate_of_absent (plain : IsPlain given)
    (absent : given.named? ManagerParams.matrixField.name = none) :
    (validate given).1 = ManagerParams.ofNamespace given := by
  have held : heldValue? given ManagerParams.matrixField.name = .ok none := by
    rw [heldValue?, absent]
  refine plain.validate_eq_ofNamespace held plain.flat ?_ ?_
  · intro value found
    rw [absent] at found
    cases found
  · intro name
    split
    next asked => rw [← asked, absent]
    next => rfl

/-- A node with a matrix is read like its namespace with the items of the matrix. -/
theorem validate_of_items (plain : IsPlain given) {value : Value} {items : List Value}
    (found : given.named? ManagerParams.matrixField.name = some value)
    (taken : value.items = .ok items) :
    (validate given).1 = ManagerParams.ofNamespace (spread given items) := by
  have held : heldValue? given ManagerParams.matrixField.name = .ok (some (.list items)) := by
    rw [plain.heldValue?_matrix found, taken]
    rfl
  exact plain.validate_eq_ofNamespace held (plain.flat.spread items) (measured_spread items)
    (named?_spread items)

end IsPlain

/-! ## Where the routes part -/

/-- The matrix has items and is no list, and the list of them is accepted in its place. -/
def Misread (given : Mapping) : Prop :=
  ∃ value items, given.named? ManagerParams.matrixField.name = some value ∧
    (∀ contents, value ≠ .list contents) ∧ value.items = .ok items ∧ items ≠ [] ∧
    ∃ params, ManagerParams.ofNamespace (spread given items) = .ok params

theorem readFloatList?_of_unlisted {value : Value} (filled : value ≠ .null)
    (unlisted : ∀ contents, value ≠ .list contents) :
    readFloatList? value = .error [⟨.notList, []⟩] := by
  cases value with
  | list contents => exact (unlisted contents rfl).elim
  | mapping entries => rfl
  | scalar content =>
      cases content with
      | null => exact (filled rfl).elim
      | _ => rfl

theorem settled_of_items {value : Value} {items : List Value} (taken : value.items = .ok items) :
    Division.settled ManagerParams.matrixField.name value =
      if items = [] then .null else value := by
  rw [Division.settled, Division.isVacant, length_of_items taken]
  cases items <;> simp

namespace IsPlain

variable {given : Mapping} {value : Value} {items : List Value}

theorem measured_of_items (found : given.named? ManagerParams.matrixField.name = some value)
    (taken : value.items = .ok items) : Measured given := by
  intro other given
  rw [found] at given
  cases given
  exact Or.inr ⟨_, length_of_items taken⟩

/-- A matrix with items that is no list is refused. -/
theorem refused_of_unlisted (plain : IsPlain given)
    (found : given.named? ManagerParams.matrixField.name = some value)
    (unlisted : ∀ contents, value ≠ .list contents) (taken : value.items = .ok items)
    (filled : items ≠ []) :
    ∃ fault, ManagerParams.ofNamespace given = .error fault ∧ fault.kind = .validation := by
  cases read : ManagerParams.ofNamespace given with
  | error fault =>
      exact ⟨fault, rfl, plain.flat.kind_of_ofNamespace (measured_of_items found taken) read⟩
  | ok params =>
      rcases ManagerParams.ofNamespace_holds read with ⟨-, -, -, holds⟩
      have member : ManagerParams.matrixField ∈ ManagerParams.ownSchema.fields := by
        simp [ManagerParams.ownSchema, ManagerParams.ownFields]
      have held := holds _ member
      rw [found, Option.map_some, settled_of_items taken, if_neg filled] at held
      have refuses := ManagerParams.matrixField_refuses
        (readFloatList?_of_unlisted (plain.ne_null found) unlisted)
      exact (refuses.not_stores params held).elim

/-- A matrix that is a list, or has no item, is read like the list of its items. -/
theorem ofNamespace_spread (plain : IsPlain given)
    (found : given.named? ManagerParams.matrixField.name = some value)
    (taken : value.items = .ok items) (same : value = .list items ∨ items = []) :
    ManagerParams.ofNamespace (spread given items) = ManagerParams.ofNamespace given := by
  have listed : (Value.list items).items = .ok items := rfl
  refine (plain.flat.spread items).ofNamespace_congr plain.flat (measured_spread items)
    (measured_of_items found taken) ?_
  intro name
  rw [named?_spread]
  split
  next asked =>
    subst asked
    rw [found, Option.map_some, Option.map_some, settled_of_items taken,
      settled_of_items listed]
    rcases same with rfl | rfl
    · rfl
    · rfl
  next => rfl

/-- A matrix that has no items is refused by the node as by its namespace. -/
theorem alike_of_itemless (plain : IsPlain given)
    (found : given.named? ManagerParams.matrixField.name = some value) {fault : Fault}
    (itemless : value.items = .error fault) :
    Alike (validate given).1 (ManagerParams.ofNamespace given) := by
  have held : heldValue? given ManagerParams.matrixField.name = .error fault := by
    rw [plain.heldValue?_matrix found, itemless]
    rfl
  rcases length_of_itemless itemless with ⟨other, lengthless, kind⟩
  rw [validate_eq, plain.flat.ofNamespace_of_lengthless found (plain.ne_null found) lengthless]
  cases done : gather given ManagerParams.names with
  | ok gathered =>
      rw [matrix_gathered done] at held
      cases held
  | error earlier =>
      rw [plain.matrix_of_gather_error done, Except.error.injEq] at held
      subst held
      exact .failed ((kind_of_items itemless).trans kind.symm)

theorem not_misread_of_absent
    (absent : given.named? ManagerParams.matrixField.name = none) : ¬ Misread given := by
  rintro ⟨value, items, found, -⟩
  rw [absent] at found
  cases found

theorem not_misread_of_itemless
    (found : given.named? ManagerParams.matrixField.name = some value) {fault : Fault}
    (itemless : value.items = .error fault) : ¬ Misread given := by
  rintro ⟨other, items, given, -, taken, -⟩
  rw [found, Option.some.injEq] at given
  rw [← given, itemless] at taken
  cases taken

theorem misread_iff (found : given.named? ManagerParams.matrixField.name = some value)
    (taken : value.items = .ok items) :
    Misread given ↔ ((∀ contents, value ≠ .list contents) ∧ items ≠ []) ∧
      ∃ params, ManagerParams.ofNamespace (spread given items) = .ok params := by
  constructor
  · rintro ⟨other, contents, given, unlisted, listed, filled, accepted⟩
    rw [found, Option.some.injEq] at given
    subst given
    rw [taken, Except.ok.injEq] at listed
    subst listed
    exact ⟨⟨unlisted, filled⟩, accepted⟩
  · rintro ⟨⟨unlisted, filled⟩, accepted⟩
    exact ⟨value, items, found, unlisted, taken, filled, accepted⟩

/-- A refusal by the namespace is one by the node, unless the items are accepted. -/
theorem alike_error_iff (plain : IsPlain given)
    (found : given.named? ManagerParams.matrixField.name = some value)
    (taken : value.items = .ok items) {fault : Fault} (kind : fault.kind = .validation) :
    Alike (validate given).1 (.error fault) ↔
      ¬ ∃ params, ManagerParams.ofNamespace (spread given items) = .ok params := by
  rw [plain.validate_of_items found taken]
  cases read : ManagerParams.ofNamespace (spread given items) with
  | ok params =>
      refine iff_of_false ?_ (not_not_intro ⟨params, rfl⟩)
      rintro ⟨⟩
  | error first =>
      have refused := (plain.flat.spread items).kind_of_ofNamespace (measured_spread items) read
      exact iff_of_true (.failed (refused.trans kind.symm)) (by simp)

/-- A node is read like its namespace, unless its matrix is misread. -/
theorem validate_alike_iff (plain : IsPlain given) :
    Alike (validate given).1 (ManagerParams.ofNamespace given) ↔ ¬ Misread given := by
  cases found : given.named? ManagerParams.matrixField.name with
  | none =>
      rw [plain.validate_of_absent found]
      exact iff_of_true (Alike.refl _) (not_misread_of_absent found)
  | some value =>
      cases taken : value.items with
      | error fault =>
          exact iff_of_true (plain.alike_of_itemless found taken)
            (not_misread_of_itemless found taken)
      | ok items =>
          rw [misread_iff found taken]
          -- Only a matrix that has items and is no list becomes another one on the node.
          by_cases parted : (∀ contents, value ≠ .list contents) ∧ items ≠ []
          · rcases plain.refused_of_unlisted found parted.1 taken parted.2 with
              ⟨fault, refused, kind⟩
            rw [refused, plain.alike_error_iff found taken kind, and_iff_right parted]
          · have same : value = .list items ∨ items = [] := by
              by_contra other
              rcases not_or.mp other with ⟨unequal, filled⟩
              refine parted ⟨?_, filled⟩
              rintro contents rfl
              cases taken
              exact unequal rfl
            rw [plain.validate_of_items found taken, plain.ofNamespace_spread found taken same]
            exact iff_of_true (Alike.refl _) (fun misread => parted misread.1)

end IsPlain

namespace Sources

/--
A namespace of known parameters gives the same outcome as overrides, as the base file
and as the preset, whatever section it stands in.  A node with these parameters ends
alike, unless its matrix is misread.
-/
theorem routes_alike_iff {given : Mapping} (plain : IsPlain given) {files : Files}
    {path name : String} (filled : path ≠ "") (known : name ∈ sectionNames)
    (loaded : files.load path = .ok (wrapped name given)) (others : Files) :
    ({ base? := some path } : Sources).load files =
        ({ overrides := .mapping given } : Sources).load others ∧
      ({ preset? := some path } : Sources).load files =
        ({ overrides := .mapping given } : Sources).load others ∧
      (Alike (validate given).1 (({ overrides := .mapping given } : Sources).load others) ↔
        ¬ Misread given) := by
  have placed := fileSection_wrapped filled known loaded
  rw [load_overrides plain.distinct others]
  refine ⟨?_, ?_, plain.validate_alike_iff⟩
  · have give : ({ base? := some path } : Sources).Give files given [] [] :=
      ⟨placed, rfl, Or.inr ⟨rfl, rfl⟩⟩
    exact give.load_eq (by simp) plain.distinct
  · have give : ({ preset? := some path } : Sources).Give files [] given [] :=
      ⟨rfl, placed, Or.inr ⟨rfl, rfl⟩⟩
    exact give.load_eq (by simp) plain.distinct

end Sources

theorem flatParameters_plain : IsPlain flatParameters where
  known := by
    rw [flatParameters, List.forall_mem_singleton]
    exact ⟨"resolution", by decide, rfl⟩
  distinct := List.pairwise_singleton _ _
  filled := by
    rw [flatParameters, List.forall_mem_singleton]
    intro null
    cases null

theorem flatParameters_alike :
    ({ base? := some "base.yaml" } : Sources).load flatFiles =
        ({ overrides := .mapping flatParameters } : Sources).load [] ∧
      Alike (validate flatParameters).1
        (({ overrides := .mapping flatParameters } : Sources).load []) := by
  have known : "/**" ∈ sectionNames := by decide
  have routes := Sources.routes_alike_iff flatParameters_plain (by decide) known load_flatFiles []
  refine ⟨routes.1, routes.2.2.mpr ?_⟩
  rintro ⟨value, items, found, -⟩
  cases found

/-! ## A matrix of two digits -/

/-- The matrix is given as a text, every character of which is a number. -/
def digitMatrix : Mapping :=
  [(.text "Q", .text "12")]

theorem digitMatrix_plain : IsPlain digitMatrix where
  known := by
    rw [digitMatrix, List.forall_mem_singleton]
    exact ⟨"Q", by decide, rfl⟩
  distinct := List.pairwise_singleton _ _
  filled := by
    rw [digitMatrix, List.forall_mem_singleton]
    intro null
    cases null

/-- The text is a matrix on a node, and refused as an override. -/
theorem digitMatrix_parted :
    ¬ ∀ given, IsPlain given →
      Alike (validate given).1 (({ overrides := .mapping given } : Sources).load []) := by
  intro routes
  have alike := routes digitMatrix digitMatrix_plain
  have node : (validate digitMatrix).1 = .ok { matrix := some [1.0, 2.0] } := by
    decide +kernel
  have override : ({ overrides := .mapping digitMatrix } : Sources).load [] =
      .error (.invalid ⟨"ManagerParams", [⟨.notList, [.field "Q"]⟩]⟩) := by
    rw [Sources.load_overrides digitMatrix_plain.distinct]
    decide +kernel
  rw [node, override] at alike
  cases alike

end Config

end MapIngest
