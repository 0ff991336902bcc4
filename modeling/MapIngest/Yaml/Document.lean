import MapIngest.Yaml.Composition

/-!
# The value of a document

The nodes of a document are turned into values.  A mapping first takes the
entries of the mappings that are merged into it and then its own, so that its
own entries win; a key that is given twice keeps its first place and its last
value.  Keys must be scalars.  A set becomes the list of its members in the order
of the document.

A document is read from bytes.  The bytes must be valid text, and the text may
hold permitted characters only.  An empty document stands for null.
-/

namespace MapIngest.Yaml

mutual

/-- The text of a scalar, or of the default entry of a mapping that can stand for one. -/
def scalarText? : Node → Option String
  | .scalar _ content => some content
  | .sequence _ _ => none
  | .mapping _ entries => defaultText? entries

/-- The text of the first default entry. -/
def defaultText? : List (Node × Node) → Option String
  | [] => none
  | (key, value) :: rest =>
    if key.tag = .default then scalarText? value else defaultText? rest

end

/-- The value of a key: it must be a scalar. -/
def keyOf : Value → Except Fault Scalar
  | .scalar content => .ok content
  | _ => .error .document

/-- Entries given to a mapping from outside, and its own. -/
structure Entries where
  merged : Mapping
  own : Mapping

/-- All entries, those from outside first. -/
def Entries.all (entries : Entries) : Mapping :=
  entries.merged ++ entries.own

mutual

/-- The value that a node stands for. -/
def Node.toValue : Node → Except Fault Value
  | .scalar tag content => (scalarOf tag content).map .scalar
  | .sequence tag items =>
    match tag with
    | .sequence => (itemValues items).map .list
    | .orderedMapping => (pairValues items).map .list
    | .pairs => (pairValues items).map .list
    | _ => .error .document
  | .mapping tag entries =>
    match tag with
    | .mapping => (entryValues entries).map fun found => .mapping (Mapping.ofEntries found.all)
    | .set => (entryValues entries).map fun found =>
        .list ((Mapping.ofEntries found.all).keys.map .scalar)
    | tag =>
      match defaultText? entries with
      | some content => (scalarOf tag content).map .scalar
      | none => .error .document

/-- The values of the items of a sequence. -/
def itemValues : List Node → Except Fault (List Value)
  | [] => .ok []
  | item :: rest => do
    let value ← item.toValue
    return value :: (← itemValues rest)

/-- The values of single pairs, each written as a mapping with one entry. -/
def pairValues : List Node → Except Fault (List Value)
  | [] => .ok []
  | .mapping _ [(key, value)] :: rest => do
    let key ← key.toValue
    let value ← value.toValue
    return .list [key, value] :: (← pairValues rest)
  | _ :: _ => .error .document

/-- The entries of a mapping, with those of the mappings merged into it. -/
def entryValues : List (Node × Node) → Except Fault Entries
  | [] => .ok ⟨[], []⟩
  | (key, value) :: rest =>
    if key.tag = .merge then do
      let merged ← mergedValues value
      let others ← entryValues rest
      return ⟨merged ++ others.merged, others.own⟩
    else do
      let key ← keyValue key
      let value ← value.toValue
      let others ← entryValues rest
      return ⟨others.merged, (key, value) :: others.own⟩

/-- The value of a key; the key of a default entry is its text. -/
def keyValue : Node → Except Fault Scalar
  | .scalar .default content => .ok (.text content)
  | node => do keyOf (← node.toValue)

/-- The entries that a node gives to a mapping that it is merged into. -/
def mergedValues : Node → Except Fault Mapping
  | .mapping _ entries => (entryValues entries).map Entries.all
  | .sequence _ items => mergedItems items
  | .scalar _ _ => .error .document

/-- The entries that a sequence of mappings gives: those of the last mapping first. -/
def mergedItems : List Node → Except Fault Mapping
  | [] => .ok []
  | .mapping _ entries :: rest => do
    let first ← entryValues entries
    return (← mergedItems rest) ++ first.all
  | _ :: _ => .error .document

end

/-- The value of a document. -/
def valueOfText (text : List Char) : Except Fault Value := do
  let document := plainBreaks text
  if document.all isPermitted then
    match ← Node.ofTokens? (← tokensOf document) with
    | some root => root.toValue
    | none => return .null
  else
    malformed

/-- The value of a document given as bytes. -/
def load (bytes : List UInt8) : Except Fault Value :=
  match Text.decode? bytes with
  | some text => valueOfText text.toList
  | none => .error .encoding

end MapIngest.Yaml
