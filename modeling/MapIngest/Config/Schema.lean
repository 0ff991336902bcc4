import MapIngest.Config.Reading

/-!
# Records with validated fields

A schema describes a record type: its fields in order, each with a name, a
getter, and a store operation that validates a dynamic value; and a check of
the finished record for orderings between its fields.

Building a record from a mapping stores every field that is given into a
blank record and gathers all issues, then adds an issue for every key that is
no name, and for every name that is no field.  The final check runs only on a
record without issues.  Assigning to one field validates that field, stores the
value, and only then runs the final check: a breach is reported, but the stored
value stays.
-/

namespace MapIngest.Config

/-- A field of a record type. -/
structure Field (ρ : Type) where
  name : String
  /-- The stored value. -/
  get : ρ → Value
  /-- Validate a value and store what it is read as. -/
  store : Value → ρ → Except (List Issue) ρ

/-- A field whose value is refused as a whole. -/
def Field.simple {ρ α : Type} (name : String) (read : Value → Except Refusal α)
    (dump : α → Value) (get : ρ → α) (set : α → ρ → ρ) : Field ρ where
  name := name
  get record := dump (get record)
  store value record :=
    match read value with
    | .ok stored => .ok (set stored record)
    | .error refusal => .error [⟨refusal, [.field name]⟩]

/-- A record type. -/
structure Schema (ρ : Type) where
  record : String
  fields : List (Field ρ)
  breach? : ρ → Option Breach

namespace Schema

variable {ρ : Type}

/-- The names of the fields, in order. -/
def names (schema : Schema ρ) : List String :=
  schema.fields.map Field.name

/-- Store one field, if it is given, and keep count of the issues. -/
def readField (given : Mapping) (progress : ρ × List Issue) (field : Field ρ) :
    ρ × List Issue :=
  match given.named? field.name with
  | none => progress
  | some value =>
    match field.store value progress.1 with
    | .ok stored => (stored, progress.2)
    | .error issues => (progress.1, progress.2 ++ issues)

/-- Store every field that is given. -/
def readFields (schema : Schema ρ) (given : Mapping) (blank : ρ) : ρ × List Issue :=
  schema.fields.foldl (readField given) (blank, [])

/-- The issue of a given entry that is no field, or whose key is not even a name. -/
def strangerIssue? (schema : Schema ρ) (entry : Scalar × Value) : Option Issue :=
  match entry.1 with
  | .text name =>
    if schema.names.contains name then none else some ⟨.unknownName, [.field name]⟩
  | key => some ⟨.invalidKey, [.ofKey key]⟩

/-- The final check of a record. -/
def checked (schema : Schema ρ) (record : ρ) : Except Report ρ :=
  match schema.breach? record with
  | none => .ok record
  | some breach => .error ⟨schema.record, [⟨.breach breach, []⟩]⟩

/-- Build a record from a mapping, over a blank one. -/
def build (schema : Schema ρ) (blank : ρ) (given : Mapping) : Except Report ρ :=
  let (record, issues) := schema.readFields given blank
  match issues ++ given.filterMap schema.strangerIssue? with
  | [] => schema.checked record
  | found => .error ⟨schema.record, found⟩

/-- Assign to a field: the outcome, and the record as it is afterwards. -/
def assign (schema : Schema ρ) (record : ρ) (name : String) (value : Value) :
    Except Report Unit × ρ :=
  match schema.fields.find? (·.name == name) with
  | none => (.error ⟨schema.record, [⟨.unknownAttribute, [.field name]⟩]⟩, record)
  | some field =>
    match field.store value record with
    | .error issues => (.error ⟨schema.record, issues⟩, record)
    | .ok stored => ((schema.checked stored).map fun _ => (), stored)

/-- The fields of a record as a mapping. -/
def toMapping (schema : Schema ρ) (record : ρ) : Mapping :=
  schema.fields.map fun field => (.text field.name, field.get record)

end Schema

end MapIngest.Config
