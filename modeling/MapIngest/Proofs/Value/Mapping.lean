import MapIngest.Value.Mapping

/-!
# What is found in a mapping

Mappings are compared by what is found under each key.  Every operation has an
equation that says what is found after it: storing answers for one key and
leaves the others, removing empties one key, and an appended mapping answers
where the first one has nothing.  Where no entry stands under a key, removing it
changes nothing and storing under it adds an entry at the end.  Storing what is
found under a key already changes nothing.

The keys of a mapping are distinct if no two entries stand under one key, and
storing and removing keep them distinct.  Storing notes a key at the end unless it
is there, so that the keys stand in the order in which they first occurred.
-/

namespace MapIngest

theorem Scalar.sameKey_comm (left right : Scalar) :
    left.sameKey right = right.sameKey left := by
  rw [Bool.eq_iff_iff, sameKey_iff, sameKey_iff]
  exact eq_comm

/-- Keys that are the same are told apart from no third key. -/
theorem Scalar.sameKey_congr {left right : Scalar} (same : left.sameKey right = true)
    (other : Scalar) : left.sameKey other = right.sameKey other := by
  rw [Scalar.sameKey, Scalar.sameKey, sameKey_iff.mp same]

namespace Mapping

/-- No two entries stand under one key. -/
def Distinct (entries : Mapping) : Prop :=
  entries.Pairwise fun first second => first.1.sameKey second.1 = false

theorem get?_congr (entries : Mapping) {key other : Scalar}
    (same : key.sameKey other = true) : get? entries key = get? entries other := by
  induction entries with
  | nil => rfl
  | cons entry rest ih =>
      rcases entry with ⟨old, value⟩
      have through : old.sameKey key = old.sameKey other := by
        rw [Scalar.sameKey_comm old key, Scalar.sameKey_comm old other]
        exact Scalar.sameKey_congr same old
      rw [get?_cons, get?_cons, through, ih]

theorem get?_append (first second : Mapping) (key : Scalar) :
    get? (first ++ second) key = (get? first key).or (get? second key) := by
  induction first with
  | nil => rfl
  | cons entry rest ih =>
      rcases entry with ⟨old, value⟩
      rw [List.cons_append, get?_cons, get?_cons, ih]
      split <;> rfl

theorem get?_erase (entries : Mapping) (key other : Scalar) :
    get? (erase entries key) other =
      if key.sameKey other then none else get? entries other := by
  induction entries with
  | nil => simp [erase]
  | cons entry rest ih =>
      rcases entry with ⟨old, value⟩
      rw [erase] at ih
      by_cases same : old.sameKey key = true
      · -- The erased entry answers for no key but the erased one.
        have through := Scalar.sameKey_congr same other
        rw [erase, List.filter_cons, if_neg (by simp [same]), ih, get?_cons, through]
        split <;> rfl
      · rw [erase, List.filter_cons, if_pos (by simp [same]), get?_cons, get?_cons, ih]
        by_cases hit : old.sameKey other = true
        · have apart : key.sameKey other = false := by
            rw [Bool.eq_false_iff]
            intro both
            apply same
            rw [Scalar.sameKey_comm, Scalar.sameKey_congr both, Scalar.sameKey_comm]
            exact hit
          simp [hit, apart]
        · simp [hit]

theorem get?_eq_none_iff (entries : Mapping) (key : Scalar) :
    get? entries key = none ↔ ∀ entry ∈ entries, entry.1.sameKey key = false := by
  simp [get?]

theorem mem_of_get?_eq_some {entries : Mapping} {key : Scalar} {value : Value}
    (found : get? entries key = some value) :
    ∃ entry ∈ entries, entry.1.sameKey key = true ∧ entry.2 = value := by
  rw [get?, Option.map_eq_some_iff] at found
  rcases found with ⟨entry, first, held⟩
  have same := List.find?_some first
  exact ⟨entry, List.mem_of_find?_eq_some first, same, held⟩

/-- In a mapping with distinct keys nothing stands under the key of the first entry again. -/
theorem Distinct.get?_tail {entry : Scalar × Value} {rest : Mapping}
    (distinct : Distinct (entry :: rest)) {key : Scalar} (same : entry.1.sameKey key = true) :
    get? rest key = none := by
  rw [← get?_congr rest same, get?_eq_none_iff]
  intro later member
  rw [Scalar.sameKey_comm]
  exact (List.pairwise_cons.mp distinct).1 later member

/-- In a mapping with distinct keys every entry is the one that is found under its key. -/
theorem Distinct.get?_of_mem {entries : Mapping} (distinct : entries.Distinct)
    {entry : Scalar × Value} (member : entry ∈ entries) :
    entries.get? entry.1 = some entry.2 := by
  induction entries with
  | nil => cases member
  | cons first rest ih =>
      rcases List.pairwise_cons.mp distinct with ⟨fresh, others⟩
      rw [get?_cons]
      rcases List.mem_cons.mp member with rfl | later
      · rw [if_pos (Scalar.sameKey_refl _)]
      · rw [if_neg (by simp [fresh entry later]), ih others later]

/-- Storing what is found under a key already changes nothing. -/
theorem insert_of_found {entries : Mapping} {key : Scalar} {value : Value}
    (found : get? entries key = some value) : insert entries key value = entries := by
  induction entries with
  | nil => cases found
  | cons entry rest ih =>
      rcases entry with ⟨old, held⟩
      rw [get?_cons] at found
      rw [insert]
      split at found
      next same =>
        cases found
        rw [if_pos same]
      next apart => rw [if_neg apart, ih found]

theorem insert_of_absent {entries : Mapping} {key : Scalar}
    (absent : get? entries key = none) (value : Value) :
    insert entries key value = entries ++ [(key, value)] := by
  induction entries with
  | nil => rfl
  | cons entry rest ih =>
      rcases entry with ⟨old, held⟩
      rw [get?_cons] at absent
      split at absent
      · cases absent
      · next apart => rw [insert, if_neg apart, ih absent, List.cons_append]

theorem erase_of_absent {entries : Mapping} {key : Scalar}
    (absent : get? entries key = none) : erase entries key = entries := by
  rw [get?_eq_none_iff] at absent
  rw [erase, List.filter_eq_self]
  intro entry member
  rw [absent entry member]
  rfl

theorem erase_append (first second : Mapping) (key : Scalar) :
    erase (first ++ second) key = erase first key ++ erase second key :=
  List.filter_append ..

theorem erase_cons_self (key : Scalar) (value : Value) (rest : Mapping) :
    erase ((key, value) :: rest) key = erase rest key := by
  rw [erase, List.filter_cons, if_neg (by simp), erase]

/-! ## Keys -/

/-- The keys after one more is noted: a key that is there already is not noted again. -/
def noteKey (noted : List Scalar) (key : Scalar) : List Scalar :=
  if noted.any (·.sameKey key) then noted else noted ++ [key]

theorem keys_insert (entries : Mapping) (key : Scalar) (value : Value) :
    (entries.insert key value).keys = noteKey entries.keys key := by
  induction entries with
  | nil => rfl
  | cons entry rest ih =>
      rcases entry with ⟨old, held⟩
      simp only [keys, noteKey] at ih
      by_cases same : old.sameKey key = true
      · simp [insert, keys, noteKey, same]
      · by_cases present : (rest.map Prod.fst).any (·.sameKey key) = true <;>
          simp [insert, keys, noteKey, same, ih, present]

/-- Keys that are noted one after the other stand where they first occur. -/
theorem foldl_noteKey (noted keys : List Scalar) :
    keys.foldl noteKey noted =
      noted ++ (keys.filter fun key => !noted.any (·.sameKey key)).eraseDupsBy Scalar.sameKey := by
  induction keys generalizing noted with
  | nil => exact (List.append_nil noted).symm
  | cons key rest ih =>
      rw [List.foldl_cons, ih, noteKey]
      by_cases present : noted.any (·.sameKey key) = true
      · rw [if_pos present, List.filter_cons, if_neg (by simp [present])]
      · rw [if_neg present, List.filter_cons, if_pos (by simp [present]), List.eraseDupsBy_cons,
          List.append_assoc, List.singleton_append, List.filter_filter]
        congr 4
        funext other
        simp [Scalar.sameKey_comm other key, Bool.and_comm]

theorem distinct_iff {entries : Mapping} :
    entries.Distinct ↔
      entries.keys.Pairwise fun first second => first.sameKey second = false := by
  rw [Distinct, keys, List.pairwise_map]

theorem Distinct.erase {entries : Mapping} (distinct : entries.Distinct) (key : Scalar) :
    (entries.erase key).Distinct :=
  List.Pairwise.filter _ distinct

theorem Distinct.insert {entries : Mapping} (distinct : entries.Distinct) (key : Scalar)
    (value : Value) : (entries.insert key value).Distinct := by
  rw [distinct_iff] at distinct ⊢
  rw [keys_insert, noteKey]
  split
  · exact distinct
  next absent =>
    rw [List.pairwise_append]
    refine ⟨distinct, List.pairwise_singleton _ key, fun old member added last => ?_⟩
    obtain rfl := List.mem_singleton.mp last
    rw [Bool.eq_false_iff]
    intro same
    exact absent (List.any_eq_true.mpr ⟨old, member, same⟩)

/-! ## Names -/

@[simp]
theorem named?_nil (name : String) : named? [] name = none := rfl

theorem named?_insert (entries : Mapping) (name other : String) (value : Value) :
    named? (insert entries (.text name) value) other =
      if name = other then some value else named? entries other := by
  simp [named?, get?_insert]

theorem named?_erase (entries : Mapping) (name other : String) :
    named? (erase entries (.text name)) other =
      if name = other then none else named? entries other := by
  simp [named?, get?_erase]

theorem named?_append (first second : Mapping) (name : String) :
    named? (first ++ second) name = (named? first name).or (named? second name) :=
  get?_append first second _

theorem named?_cons_text (name other : String) (value : Value) (rest : Mapping) :
    named? ((.text name, value) :: rest) other =
      if name = other then some value else named? rest other := by
  simp [named?, get?_cons]

theorem names?_cons_text (name : String) (value : Value) (rest : Mapping) :
    names? ((.text name, value) :: rest) = (names? rest).map (name :: ·) := by
  rw [names?, names?, List.mapM_cons]
  cases List.mapM (m := Option) _ rest <;> rfl

end Mapping

end MapIngest
