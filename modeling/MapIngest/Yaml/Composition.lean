import MapIngest.Yaml.Plain
import MapIngest.Yaml.Token.Stream

/-!
# From tokens to nodes

The tokens of a document are read by recursive descent.  A node may carry an
anchor, under which an alias later in the document refers to it; the node is
then simply the same node again.  A node that is left out is an empty plain
scalar.  An anchor may be given once only.

Documents are trees here: no node can contain itself, so an alias inside the
node that it names is refused.

The input holds at most one document.  Every call either passes a token or
goes one level down into a node that begins with one, so the number of tokens
bounds the depth of the calls.
-/

namespace MapIngest.Yaml

/-- The state of reading nodes. -/
structure Composition where
  tokens : List Token
  /-- The anchors given so far; a node that is not finished is missing. -/
  anchors : List (String × Option Node) := []
  /-- The handles of tags and what they stand for. -/
  handles : List (String × String) := []

/-- A reader of nodes. -/
abbrev Compose := StateT Composition (Except Fault)

namespace Compose

/-- The document is not well formed. -/
def fail {α : Type} : Compose α :=
  throw .document

/-- The next token. -/
def peek? : Compose (Option Token) := do
  return (← get).tokens.head?

/-- Pass a token. -/
def pass : Compose Unit :=
  modify fun state => { state with tokens := state.tokens.tail }

/-- Pass the given token, if it is the next one. -/
def accept (token : Token) : Compose Bool := do
  if (← peek?) == some token then
    pass
    return true
  else
    return false

/-- Require the given token and pass it. -/
def expect (token : Token) : Compose Unit := do
  if !(← accept token) then
    fail

/-- An empty plain scalar. -/
def blank : Node :=
  .scalar .null ""

/-- The node that an alias refers to. -/
def lookUp (name : String) : Compose Node := do
  match (← get).anchors.lookup name with
  | some (some node) => return node
  | _ => fail

/-- Note an anchor at the beginning of its node. -/
def reserve (anchor? : Option String) : Compose Unit := do
  if let some name := anchor? then
    if ((← get).anchors.lookup name).isSome then
      fail
    else
      modify fun state => { state with anchors := (name, none) :: state.anchors }

/-- Note an anchor at the end of its node. -/
def record (anchor? : Option String) (node : Node) : Compose Unit := do
  if let some name := anchor? then
    modify fun state => { state with anchors := (name, some node) :: state.anchors }

/-- Read an anchor, if one follows. -/
def anchor? : Compose (Option String) := do
  match ← peek? with
  | some (.anchor name) => do
    pass
    return some name
  | _ => return none

/-- Read a tag in full, if one follows. -/
def tag? : Compose (Option String) := do
  match ← peek? with
  | some (.tag none suffix) => do
    pass
    return some suffix
  | some (.tag (some handle) suffix) => do
    pass
    match (← get).handles.lookup handle with
    | some meaning => return some (meaning ++ suffix)
    | none => fail
  | _ => return none

/-- Read an anchor and a tag in either order. -/
def properties : Compose (Option String × Option String) := do
  match ← anchor? with
  | some name => return (some name, ← tag?)
  | none => do
    let tag? ← tag?
    if tag?.isSome then return (← anchor?, tag?) else return (none, none)

/-- The tag of a scalar. -/
def scalarTag (written? : Option String) (content : String) (plain : Bool) : Tag :=
  match written? with
  | none => if plain then Tag.ofPlain content else .text
  | some "!" => Tag.ofPlain content
  | some name => Tag.ofName name

/-- The tag of a collection. -/
def collectionTag (written? : Option String) (usual : Tag) : Tag :=
  match written? with
  | none => usual
  | some "!" => usual
  | some name => Tag.ofName name

/-- Whether a token ends an entry of a block sequence. -/
def endsItem (indentless : Bool) : Option Token → Bool
  | some .blockEntry => true
  | some .blockEnd => true
  | some .key => indentless
  | some .value => indentless
  | _ => false

/-- Whether a token ends a part of a block mapping. -/
def endsPart : Option Token → Bool
  | some .key => true
  | some .value => true
  | some .blockEnd => true
  | _ => false

/-- Whether a token ends a part of a flow collection, apart from a colon. -/
def endsFlowPart (ending : Token) : Option Token → Bool
  | some .flowEntry => true
  | some token => token == ending
  | none => false

/-- The content that is left out of a node with properties. -/
def missing (tag? : Option String) (marked : Bool) : Compose Node :=
  if marked then
    return .scalar (scalarTag tag? "" true) ""
  else
    fail

mutual

/-- Read a node; blocks, and sequences that are not indented, only where they are allowed. -/
def node (block indentless : Bool) : (steps : Nat) → Compose Node
  | 0 => fail
  | steps + 1 => do
    match ← peek? with
    | some (.alias name) => do
      pass
      lookUp name
    | _ => do
      let (anchor?, tag?) ← properties
      reserve anchor?
      let node ← content block indentless tag? (anchor?.isSome || tag?.isSome) steps
      record anchor? node
      return node

/-- Read the content of a node with the given tag; it may be left out if it has properties. -/
def content (block indentless : Bool) (tag? : Option String) (marked : Bool) :
    (steps : Nat) → Compose Node
  | 0 => fail
  | steps + 1 => do
    match ← peek? with
    | some (.scalar text plain) => do
      pass
      return .scalar (scalarTag tag? text plain) text
    | some .flowSequence => do
      pass
      return .sequence (collectionTag tag? .sequence) (← flowItems true steps)
    | some .flowMapping => do
      pass
      return .mapping (collectionTag tag? .mapping) (← flowEntries true steps)
    | some .blockEntry =>
      if indentless then
        return .sequence (collectionTag tag? .sequence) (← blockItems true steps)
      else
        missing tag? marked
    | some .blockSequence =>
      if block then do
        pass
        let items ← blockItems false steps
        expect .blockEnd
        return .sequence (collectionTag tag? .sequence) items
      else
        missing tag? marked
    | some .blockMapping =>
      if block then do
        pass
        let entries ← blockEntries steps
        expect .blockEnd
        return .mapping (collectionTag tag? .mapping) entries
      else
        missing tag? marked
    | _ => missing tag? marked

/-- Read the entries of a block sequence. -/
def blockItems (indentless : Bool) : (steps : Nat) → Compose (List Node)
  | 0 => fail
  | steps + 1 => do
    if ← accept .blockEntry then
      let item ← if endsItem indentless (← peek?) then pure blank else node true false steps
      return item :: (← blockItems indentless steps)
    else
      return []

/-- Read a part of a block mapping, which may be left out. -/
def blockPart : (steps : Nat) → Compose Node
  | 0 => fail
  | steps + 1 => do
    if endsPart (← peek?) then return blank else node true true steps

/-- Read the entries of a block mapping. -/
def blockEntries : (steps : Nat) → Compose (List (Node × Node))
  | 0 => fail
  | steps + 1 => do
    if ← accept .key then
      let key ← blockPart steps
      let value ← if ← accept .value then blockPart steps else pure blank
      return (key, value) :: (← blockEntries steps)
    else
      return []

/-- Read a part of a flow collection, which may be left out. -/
def flowPart (ending : Token) (colonEnds : Bool) : (steps : Nat) → Compose Node
  | 0 => fail
  | steps + 1 => do
    let next? ← peek?
    if endsFlowPart ending next? || (colonEnds && next? == some .value) then
      return blank
    else
      node false false steps

/-- Read a key and a value inside a flow collection, after the key mark. -/
def flowPair (ending : Token) : (steps : Nat) → Compose (Node × Node)
  | 0 => fail
  | steps + 1 => do
    let key ← flowPart ending true steps
    let value ← if ← accept .value then flowPart ending false steps else pure blank
    return (key, value)

/-- Read the items of a flow sequence up to its end; a single pair is a mapping. -/
def flowItems (first : Bool) : (steps : Nat) → Compose (List Node)
  | 0 => fail
  | steps + 1 => do
    if ← accept .flowSequenceEnd then
      return []
    else
      if !first then
        expect .flowEntry
      if ← accept .key then
        let pair ← flowPair .flowSequenceEnd steps
        return .mapping .mapping [pair] :: (← flowItems false steps)
      else if ← accept .flowSequenceEnd then
        return []
      else
        let item ← node false false steps
        return item :: (← flowItems false steps)

/-- Read the entries of a flow mapping up to its end; a value may be left out. -/
def flowEntries (first : Bool) : (steps : Nat) → Compose (List (Node × Node))
  | 0 => fail
  | steps + 1 => do
    if ← accept .flowMappingEnd then
      return []
    else
      if !first then
        expect .flowEntry
      if ← accept .key then
        let pair ← flowPair .flowMappingEnd steps
        return pair :: (← flowEntries false steps)
      else if ← accept .flowMappingEnd then
        return []
      else
        let key ← node false false steps
        return (key, blank) :: (← flowEntries false steps)

end

/-- The handles that need no declaration. -/
def usualHandles : List (String × String) :=
  [("!", "!"), ("!!", standardTags)]

/-- Read the directives before a document; the version and each handle are given once. -/
def directives (versioned : Bool) : (steps : Nat) → Compose Unit
  | 0 => fail
  | steps + 1 => do
    match ← peek? with
    | some (.directive (.version major)) =>
      if versioned || major != 1 then
        fail
      else do
        pass
        directives true steps
    | some (.directive (.abbreviation handle meaning)) =>
      if ((← get).handles.lookup handle).isSome then
        fail
      else do
        pass
        modify fun state => { state with handles := (handle, meaning) :: state.handles }
        directives versioned steps
    | some (.directive .unknown) => do
      pass
      directives versioned steps
    | _ => return ()

/-- Read a document that begins with a mark, after its directives. -/
def markedDocument (steps : Nat) : Compose Node := do
  expect .documentStart
  match ← peek? with
  | none => return blank
  | some .documentStart => return blank
  | some .documentEnd => return blank
  | some (.directive _) => return blank
  | _ => node true false steps

/-- Pass marks that end documents. -/
def ends : (steps : Nat) → Compose Unit
  | 0 => return ()
  | steps + 1 => do
    if ← accept .documentEnd then
      ends steps

/-- Read the only document, if there is one. -/
def document? (steps : Nat) : Compose (Option Node) := do
  let found? ← do
    match ← peek? with
    | none => pure none
    | some (.directive _) => do
      directives false steps
      modify fun state => { state with handles := state.handles ++ usualHandles }
      pure (some (← markedDocument steps))
    | some .documentStart => do
      modify fun state => { state with handles := usualHandles }
      pure (some (← markedDocument steps))
    | some _ => do
      modify fun state => { state with handles := usualHandles }
      pure (some (← node true false steps))
  ends steps
  if (← peek?).isSome then fail else return found?

end Compose

/-- The root of a document, unless it is empty. -/
def Node.ofTokens? (tokens : List Token) : Except Fault (Option Node) :=
  (Compose.document? (3 * tokens.length + 8)).run' { tokens := tokens }

end MapIngest.Yaml
