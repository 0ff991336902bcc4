import MapIngest.Value.Conversion

/-!
# Merging configuration layers

A configuration is put together from layers, of which the later override the
earlier.  Where two layers both hold a mapping, the mappings are merged key by
key; everywhere else the later value replaces the earlier one.  A layer that
counts as false is no layer.
-/

namespace MapIngest.Config

mutual

/-- What is stored when a value meets the value already there. -/
def mergeValue : (held : Option Value) → (value : Value) → Value
  | some (.mapping base), .mapping entries => .mapping (mergeEntries base entries)
  | _, value => value

/-- Merge entries into a mapping, one after the other. -/
def mergeEntries : (base : Mapping) → List (Scalar × Value) → Mapping
  | base, [] => base
  | base, (key, value) :: rest =>
    mergeEntries (base.insert key (mergeValue (base.get? key) value)) rest

end

/-- Merge one layer into what the earlier layers gave. -/
def mergeLayer (base : Mapping) (layer : Value) : Except Fault Mapping :=
  match layer with
  | .mapping entries => .ok (mergeEntries base entries)
  | value => if value.isTruthy then Value.refuse (.mappingSort value.sort) else .ok base

/-- Merge layers, the later of which override the earlier. -/
def merge (layers : List Value) : Except Fault Mapping :=
  layers.foldlM mergeLayer []

end MapIngest.Config
