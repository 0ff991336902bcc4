import MapIngest.Value.Basic

/-!
# Mappings

A mapping is a list of entries, read as a function from keys to values.
Storing under a key that is present replaces the value where it stands;
storing under a new key adds an entry at the end.  The order of the keys is
therefore the order in which they were first stored.
-/

namespace MapIngest.Mapping

/-- The value stored under a key. -/
def get? (entries : Mapping) (key : Scalar) : Option Value :=
  (entries.find? fun entry => entry.1.sameKey key).map Prod.snd

/-- Whether a key is present. -/
def contains (entries : Mapping) (key : Scalar) : Bool :=
  entries.any fun entry => entry.1.sameKey key

/-- Store a value under a key. -/
def insert : (entries : Mapping) → (key : Scalar) → (value : Value) → Mapping
  | [], key, value => [(key, value)]
  | (old, held) :: rest, key, value =>
    if old.sameKey key then (old, value) :: rest else (old, held) :: insert rest key value

/-- Remove a key. -/
def erase (entries : Mapping) (key : Scalar) : Mapping :=
  entries.filter fun entry => !entry.1.sameKey key

/-- The keys, in order. -/
def keys (entries : Mapping) : List Scalar :=
  entries.map Prod.fst

/-- Store a sequence of entries one after the other. -/
def insertAll (entries additions : Mapping) : Mapping :=
  additions.foldl (fun stored entry => stored.insert entry.1 entry.2) entries

/-- The mapping of a sequence of entries: the last value of a key wins, in its first place. -/
def ofEntries (entries : Mapping) : Mapping :=
  insertAll [] entries

/-- The value stored under a name. -/
def named? (entries : Mapping) (name : String) : Option Value :=
  get? entries (.text name)

/-- The names of the entries, if every key is a text. -/
def names? (entries : Mapping) : Option (List String) :=
  entries.mapM fun entry =>
    match entry.1 with
    | .text name => some name
    | _ => none

@[simp]
theorem get?_nil (key : Scalar) : get? [] key = none := rfl

theorem get?_cons (old key : Scalar) (value : Value) (rest : Mapping) :
    get? ((old, value) :: rest) key =
      if old.sameKey key then some value else get? rest key := by
  by_cases same : old.sameKey key = true <;> simp [get?, same]

theorem contains_eq_isSome (entries : Mapping) (key : Scalar) :
    contains entries key = (get? entries key).isSome := by
  induction entries with
  | nil => rfl
  | cons entry rest ih =>
    obtain ⟨old, value⟩ := entry
    rw [get?_cons]
    by_cases same : old.sameKey key = true <;> simp_all [contains]

/-- What is stored under a key is what is found under the same key. -/
theorem get?_insert (entries : Mapping) (key other : Scalar) (value : Value) :
    get? (insert entries key value) other =
      if key.sameKey other then some value else get? entries other := by
  induction entries with
  | nil => simp [insert, get?_cons]
  | cons entry rest ih =>
    obtain ⟨old, held⟩ := entry
    by_cases same : old.sameKey key = true
    · simp only [insert, same, if_true, get?_cons]
      have through : old.sameKey other = key.sameKey other := by
        rw [Scalar.sameKey, Scalar.sameKey, Scalar.sameKey_iff.1 same]
      by_cases hit : key.sameKey other = true <;> simp [through, hit]
    · rw [insert, if_neg same, get?_cons, get?_cons, ih]
      by_cases hit : old.sameKey other = true
      · have apart : key.sameKey other = false := by
          rw [Bool.eq_false_iff]
          intro both
          apply same
          rw [Scalar.sameKey_iff] at hit both ⊢
          exact hit.trans both.symm
        simp [hit, apart]
      · simp [hit]

end MapIngest.Mapping
