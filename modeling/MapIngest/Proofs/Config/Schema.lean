import MapIngest.Config.Schema
import MapIngest.Proofs.Value.Mapping

/-!
# What a built record holds

The fields of a record type are lawful if each of them accepts or refuses a
value whatever the record, if a stored value is accepted again and stays as it
is, and if storing to one field leaves the others.  For lawful fields this file
says what building does: it succeeds on a mapping exactly if every value given
is accepted, every name is one of a field, and no ordering is broken; and the
record then holds in every field what the value given for it is read as, or the
default.  A record that is written as a mapping is therefore built again from it.
-/

namespace MapIngest.Config

variable {ρ α : Type}

namespace Field

/-- Whatever the record, a value is accepted, and the field holds `held` afterwards. -/
def Stores (field : Field ρ) (value held : Value) : Prop :=
  ∀ record, ∃ after, field.store value record = .ok after ∧ field.get after = held

/-- Whatever the record, a value is refused, for one reason at least. -/
def Refuses (field : Field ρ) (value : Value) : Prop :=
  ∀ record, ∃ issue issues, field.store value record = .error (issue :: issues)

/-- Storing to a field leaves what is seen of the record. -/
def Spares (field : Field ρ) (view : ρ → α) : Prop :=
  ∀ ⦃value record after⦄, field.store value record = .ok after → view after = view record

/-- A field decides on a value by the value alone, and takes back what it holds. -/
structure Lawful (field : Field ρ) : Prop where
  decides : ∀ value, (∃ held, field.Stores value held) ∨ field.Refuses value
  rereads : ∀ value held, field.Stores value held → field.Stores held held

/-- A field holds what a value is read as; without a value, what the blank record holds. -/
def Holds (field : Field ρ) (value? : Option Value) (blank record : ρ) : Prop :=
  match value? with
  | some value => field.Stores value (field.get record)
  | none => field.get record = field.get blank

variable {field : Field ρ}

theorem Stores.store_eq {value held : Value} (stores : field.Stores value held)
    {record after : ρ} (stored : field.store value record = .ok after) :
    field.get after = held := by
  rcases stores record with ⟨same, equal, holds⟩
  rw [stored] at equal
  cases equal
  exact holds

theorem Refuses.not_stores {value held : Value} (refuses : field.Refuses value)
    (record : ρ) : ¬ field.Stores value held := by
  intro stores
  rcases stores record with ⟨after, stored, -⟩
  rcases refuses record with ⟨issue, issues, refused⟩
  rw [stored] at refused
  cases refused

theorem Holds.of_get_eq {value? : Option Value} {blank record : ρ}
    (holds : field.Holds value? blank record) {other after : ρ}
    (blanks : field.get blank = field.get other) (records : field.get after = field.get record) :
    field.Holds value? other after := by
  cases value? with
  | none => exact (records.trans holds).trans blanks
  | some value =>
      rw [Holds, records]
      exact holds

/-- A value that a lawful field stored once is stored in every record. -/
theorem Lawful.stores_of_store (lawful : field.Lawful) {value : Value} {record after : ρ}
    (stored : field.store value record = .ok after) :
    field.Stores value (field.get after) := by
  rcases lawful.decides value with ⟨held, stores⟩ | refuses
  · rw [stores.store_eq stored]
    exact stores
  · rcases refuses record with ⟨issue, issues, refused⟩
    rw [stored] at refused
    cases refused

/-- A lawful field takes back what it holds, if it takes back its default. -/
theorem Lawful.stores_get (lawful : field.Lawful) {value? : Option Value}
    {blank record : ρ} (default : field.Stores (field.get blank) (field.get blank))
    (holds : field.Holds value? blank record) :
    field.Stores (field.get record) (field.get record) := by
  cases value? with
  | none =>
      have same : field.get record = field.get blank := holds
      rw [same]
      exact default
  | some value => exact lawful.rereads value _ holds

end Field

/-- Every field is lawful, and storing to one of them leaves the others. -/
structure LawfulFields (fields : List (Field ρ)) : Prop where
  lawful : ∀ field ∈ fields, field.Lawful
  apart : fields.Pairwise fun first second =>
    first.Spares second.get ∧ second.Spares first.get

namespace LawfulFields

theorem head {field : Field ρ} {rest : List (Field ρ)}
    (lawful : LawfulFields (field :: rest)) : field.Lawful :=
  lawful.lawful field List.mem_cons_self

theorem tail {field : Field ρ} {rest : List (Field ρ)}
    (lawful : LawfulFields (field :: rest)) : LawfulFields rest where
  lawful other member := lawful.lawful other (List.mem_cons_of_mem _ member)
  apart := (List.pairwise_cons.mp lawful.apart).2

theorem head_apart {field : Field ρ} {rest : List (Field ρ)}
    (lawful : LawfulFields (field :: rest)) :
    ∀ other ∈ rest, field.Spares other.get ∧ other.Spares field.get :=
  (List.pairwise_cons.mp lawful.apart).1

end LawfulFields

namespace Schema

/-! ## Reading one field after the other -/

section Fields

variable (given : Mapping)

/-- Reading a field leaves what storing to the field leaves. -/
theorem readField_spares {field : Field ρ} {view : ρ → α} (spares : field.Spares view)
    (progress : ρ × List Issue) :
    view (readField given progress field).1 = view progress.1 := by
  rw [readField]
  split
  · rfl
  · split
    next stored => exact spares stored
    next => rfl

theorem foldl_spares {fields : List (Field ρ)} {view : ρ → α}
    (spare : ∀ field ∈ fields, field.Spares view) (progress : ρ × List Issue) :
    view (fields.foldl (readField given) progress).1 = view progress.1 := by
  induction fields generalizing progress with
  | nil => rfl
  | cons field rest ih =>
      rcases List.forall_mem_cons.mp spare with ⟨first, others⟩
      rw [List.foldl_cons, ih others, readField_spares given first]

theorem readField_issues (progress : ρ × List Issue) (field : Field ρ) :
    ∃ found, (readField given progress field).2 = progress.2 ++ found := by
  rw [readField]
  split
  · exact ⟨[], by simp⟩
  · split
    · exact ⟨[], by simp⟩
    · exact ⟨_, rfl⟩

theorem foldl_issues (fields : List (Field ρ)) (progress : ρ × List Issue) :
    ∃ found, (fields.foldl (readField given) progress).2 = progress.2 ++ found := by
  induction fields generalizing progress with
  | nil => exact ⟨[], by simp⟩
  | cons field rest ih =>
      rcases readField_issues given progress field with ⟨first, here⟩
      rcases ih (readField given progress field) with ⟨others, later⟩
      refine ⟨first ++ others, ?_⟩
      rw [List.foldl_cons, later, here, List.append_assoc]

/-- A field that is read without an issue holds what it was given. -/
theorem readField_holds {field : Field ρ} (lawful : field.Lawful) (record : ρ)
    (clean : (readField given (record, []) field).2 = []) :
    field.Holds (given.named? field.name) record (readField given (record, []) field).1 := by
  rw [readField] at clean ⊢
  split
  next absent =>
    rw [absent]
    rfl
  next value found =>
    rw [found] at clean ⊢
    cases stored : field.store value record with
    | ok after =>
        exact lawful.stores_of_store stored
    | error issues =>
        rcases lawful.decides value with ⟨held, stores⟩ | refuses
        · rcases stores record with ⟨after, accepted, -⟩
          rw [stored] at accepted
          cases accepted
        · rcases refuses record with ⟨issue, others, refused⟩
          rw [stored] at refused
          cases refused
          simp [stored] at clean

/-- Fields that are read without an issue hold what they were given. -/
theorem foldl_holds {fields : List (Field ρ)} (lawful : LawfulFields fields) (record : ρ)
    (clean : (fields.foldl (readField given) (record, [])).2 = []) :
    ∀ field ∈ fields, field.Holds (given.named? field.name) record
      (fields.foldl (readField given) (record, [])).1 := by
  induction fields generalizing record with
  | nil => simp
  | cons first rest ih =>
      rw [List.foldl_cons] at clean ⊢
      have here : (readField given (record, []) first).2 = [] := by
        rcases foldl_issues given rest (readField given (record, []) first) with ⟨found, all⟩
        rw [clean] at all
        exact (List.nil_eq_append_iff.mp all).1
      obtain ⟨stored, split⟩ :
          ∃ stored, readField given (record, []) first = (stored, []) :=
        ⟨_, Prod.ext rfl here⟩
      rw [split] at clean ⊢
      intro field member
      rcases List.mem_cons.mp member with rfl | later
      · -- The fields after the first one leave what it holds.
        have kept := foldl_spares given (fun other inside =>
          (lawful.head_apart other inside).2) (stored, ([] : List Issue))
        have holds := readField_holds given lawful.head record (by rw [split])
        rw [split] at holds
        exact holds.of_get_eq rfl kept
      · have holds := ih lawful.tail stored clean field later
        have kept : field.get stored = field.get record := by
          have spared := readField_spares given (lawful.head_apart field later).1 (record, [])
          rw [split] at spared
          exact spared
        exact holds.of_get_eq kept rfl

/-- Fields that accept what they are given are read without an issue. -/
theorem foldl_clean {fields : List (Field ρ)}
    (accepted : ∀ field ∈ fields, ∀ value, given.named? field.name = some value →
      ∃ held, field.Stores value held) (record : ρ) :
    (fields.foldl (readField given) (record, [])).2 = [] := by
  induction fields generalizing record with
  | nil => rfl
  | cons field rest ih =>
      rcases List.forall_mem_cons.mp accepted with ⟨first, others⟩
      have clean : (readField given (record, []) field).2 = [] := by
        rw [readField]
        split
        · rfl
        next value found =>
          rcases first value found with ⟨held, stores⟩
          rcases stores record with ⟨after, stored, -⟩
          simp [stored]
      have split : readField given (record, []) field =
          ((readField given (record, []) field).1, []) := Prod.ext rfl clean
      rw [List.foldl_cons, split]
      exact ih others _

end Fields

/-! ## Building a record -/

variable (schema : Schema ρ)

/-- A record is built if it is read without an issue, has no stranger, and breaks no order. -/
theorem build_eq_ok_iff {blank record : ρ} {given : Mapping} :
    schema.build blank given = .ok record ↔
      schema.readFields given blank = (record, []) ∧
        given.filterMap schema.strangerIssue? = [] ∧ schema.breach? record = none := by
  rw [build]
  rcases schema.readFields given blank with ⟨stored, issues⟩
  simp only [Prod.mk.injEq]
  cases found : issues ++ given.filterMap schema.strangerIssue? with
  | nil =>
      rcases List.append_eq_nil_iff.mp found with ⟨none, strangerless⟩
      simp only [none, strangerless, and_true, true_and, checked]
      cases breached : schema.breach? stored with
      | none =>
          constructor
          · rintro ⟨⟩
            exact ⟨rfl, breached⟩
          · rintro ⟨rfl, -⟩
            rfl
      | some breach =>
          constructor
          · rintro ⟨⟩
          · rintro ⟨rfl, sound⟩
            rw [breached] at sound
            cases sound
  | cons issue others =>
      constructor
      · rintro ⟨⟩
      · rintro ⟨⟨-, none⟩, strangerless, -⟩
        rw [none, strangerless] at found
        cases found

variable {schema}

theorem build_holds (lawful : LawfulFields schema.fields) {blank record : ρ}
    {given : Mapping} (built : schema.build blank given = .ok record) :
    ∀ field ∈ schema.fields, field.Holds (given.named? field.name) blank record := by
  rcases schema.build_eq_ok_iff.mp built with ⟨read, -, -⟩
  rw [readFields] at read
  have holds := foldl_holds given lawful blank (by rw [read])
  rw [read] at holds
  exact holds

theorem build_spares {view : ρ → α} (spare : ∀ field ∈ schema.fields, field.Spares view)
    {blank record : ρ} {given : Mapping} (built : schema.build blank given = .ok record) :
    view record = view blank := by
  rcases schema.build_eq_ok_iff.mp built with ⟨read, -, -⟩
  have kept := foldl_spares given spare (blank, [])
  rw [readFields] at read
  rw [read] at kept
  exact kept

/-! ## Writing a record and building it again -/

theorem named?_toMapping (distinct : schema.names.Nodup) (record : ρ) :
    ∀ field ∈ schema.fields,
      (schema.toMapping record).named? field.name = some (field.get record) := by
  rw [names] at distinct
  rw [toMapping]
  generalize schema.fields = fields at distinct
  induction fields with
  | nil => simp
  | cons first rest ih =>
      rw [List.map_cons, List.nodup_cons] at distinct
      intro field member
      rw [List.map_cons, Mapping.named?_cons_text]
      rcases List.mem_cons.mp member with rfl | later
      · simp
      · have apart : first.name ≠ field.name := by
          intro same
          apply distinct.1
          rw [same]
          exact List.mem_map_of_mem later
        rw [if_neg apart]
        exact ih distinct.2 field later

theorem named?_map_eq_none {fields : List (Field ρ)} {name : String}
    (foreign : name ∉ fields.map Field.name) (record : ρ) :
    Mapping.named? (fields.map fun field => (.text field.name, field.get record)) name =
      none := by
  rw [Mapping.named?, Mapping.get?_eq_none_iff]
  intro entry member
  rcases List.mem_map.mp member with ⟨field, inside, rfl⟩
  have apart : field.name ≠ name := by
    rintro rfl
    exact foreign (List.mem_map_of_mem inside)
  simpa using apart

theorem named?_toMapping_eq_none {name : String} (foreign : name ∉ schema.names)
    (record : ρ) : (schema.toMapping record).named? name = none :=
  named?_map_eq_none foreign record

theorem strangerIssue?_toMapping (record : ρ) :
    (schema.toMapping record).filterMap schema.strangerIssue? = [] := by
  rw [List.filterMap_eq_nil_iff]
  intro entry member
  rcases List.mem_map.mp member with ⟨field, inside, rfl⟩
  have known : field.name ∈ schema.names := List.mem_map_of_mem inside
  simp [strangerIssue?, known]

theorem names?_toMapping (record : ρ) :
    (schema.toMapping record).names? = some schema.names := by
  rw [toMapping, names]
  induction schema.fields with
  | nil => rfl
  | cons field rest ih => rw [List.map_cons, Mapping.names?_cons_text, ih]; rfl

section Writing

variable (lawful : LawfulFields schema.fields) (distinct : schema.names.Nodup)
  (remainder : ρ → α) (spare : ∀ field ∈ schema.fields, field.Spares remainder)
  {record : ρ}
  (fixed : ∀ field ∈ schema.fields, field.Stores (field.get record) (field.get record))
  (determined : ∀ other, (∀ field ∈ schema.fields, field.get other = field.get record) →
    remainder other = remainder record → other = record)
  {blank : ρ} (same : remainder blank = remainder record)

include lawful distinct spare fixed determined same

/--
A record whose fields take back what they hold is read from its own mapping,
over any blank record with the same remainder.
-/
theorem readFields_toMapping :
    schema.readFields (schema.toMapping record) blank = (record, []) := by
  have written := named?_toMapping distinct record
  have clean := foldl_clean (schema.toMapping record) (fun field member value found => by
    rw [written field member] at found
    cases found
    exact ⟨_, fixed field member⟩) blank
  have holds := foldl_holds (schema.toMapping record) lawful blank clean
  have kept := foldl_spares (schema.toMapping record) spare (blank, ([] : List Issue))
  refine Prod.ext (determined _ ?_ (kept.trans same)) clean
  intro field member
  have held := holds field member
  rw [written field member] at held
  -- The value given is what the record holds, and it is read as itself.
  rcases fixed field member blank with ⟨after, stored, taken⟩
  exact (held.store_eq stored).symm.trans taken

/-- What is left of building such a record is the final check. -/
theorem build_toMapping_eq_checked :
    schema.build blank (schema.toMapping record) = schema.checked record := by
  rw [build, readFields_toMapping lawful distinct remainder spare fixed determined same,
    strangerIssue?_toMapping]
  rfl

end Writing

theorem build_toMapping (lawful : LawfulFields schema.fields) (distinct : schema.names.Nodup)
    (remainder : ρ → α) (spare : ∀ field ∈ schema.fields, field.Spares remainder)
    {record : ρ}
    (fixed : ∀ field ∈ schema.fields, field.Stores (field.get record) (field.get record))
    (sound : schema.breach? record = none)
    (determined : ∀ other, (∀ field ∈ schema.fields, field.get other = field.get record) →
      remainder other = remainder record → other = record)
    {blank : ρ} (same : remainder blank = remainder record) :
    schema.build blank (schema.toMapping record) = .ok record := by
  rw [build_toMapping_eq_checked lawful distinct remainder spare fixed determined same,
    checked, sound]

end Schema

end MapIngest.Config
