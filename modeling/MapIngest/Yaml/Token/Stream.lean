import MapIngest.Yaml.Token.Block
import MapIngest.Yaml.Token.Plain
import MapIngest.Yaml.Token.Quoted
import MapIngest.Yaml.Token.Tag

/-!
# Cutting a document into tokens

Whether a token is a key is only known when the colon after it is met.  So
every token that may be a key is remembered as a candidate, one for each level
of flow collections; the colon inserts the key token, and where necessary the
token that opens a block, in front of the candidate.  A candidate must stand
on the line of its colon and within 1024 characters of it.  A candidate at the
indentation of the enclosing block has to be a key: if it cannot be one, the
document is malformed.

Every step of the cutting passes at least one character, so the length of the
document bounds the number of steps.
-/

namespace MapIngest.Yaml

/-- A token that may turn out to be a key. -/
structure Candidate where
  /-- How many tokens stand in front of it. -/
  place : Nat
  /-- The level of flow collections that it stands at. -/
  level : Nat
  /-- It has to be a key. -/
  required : Bool
  index : Nat
  line : Nat
  column : Nat

/-- A document while it is cut into tokens. -/
structure Cutting where
  cursor : Cursor
  /-- The tokens found, the newest first. -/
  tokens : List Token := []
  /-- How many flow collections are open. -/
  level : Nat := 0
  /-- The column of the innermost open block. -/
  indent : Int := -1
  /-- The columns of the outer open blocks. -/
  outer : List Int := []
  /-- A token here may be a key. -/
  keyAllowed : Bool := true
  candidates : List Candidate := []

namespace Cutting

/-- Add a token. -/
def push (state : Cutting) (token : Token) : Cutting :=
  { state with tokens := token :: state.tokens }

/-- Whether the position is outside all flow collections. -/
def inBlock (state : Cutting) : Bool :=
  state.level == 0

/-- The candidates that are too far away to be keys. -/
def isStale (state : Cutting) (candidate : Candidate) : Bool :=
  candidate.line != state.cursor.line || candidate.index + 1024 < state.cursor.index

/-- Drop candidates of a class, none of which may have to be a key. -/
def dropCandidates (state : Cutting) (drop : Candidate → Bool) : Except Fault Cutting :=
  if state.candidates.any fun candidate => drop candidate && candidate.required then
    malformed
  else
    .ok { state with candidates := state.candidates.filter fun candidate => !drop candidate }

/-- Drop the candidates that are too far away. -/
def dropStale (state : Cutting) : Except Fault Cutting :=
  state.dropCandidates state.isStale

/-- Drop the candidate of the current level. -/
def dropCurrent (state : Cutting) : Except Fault Cutting :=
  state.dropCandidates (·.level == state.level)

/-- Remember the next token as a candidate, if a key may stand here. -/
def saveCandidate (state : Cutting) : Except Fault Cutting :=
  if state.keyAllowed then do
    let state ← state.dropCurrent
    let candidate : Candidate :=
      { place := state.tokens.length
        level := state.level
        required := state.inBlock && state.indent == state.cursor.column
        index := state.cursor.index
        line := state.cursor.line
        column := state.cursor.column }
    return { state with candidates := candidate :: state.candidates }
  else
    .ok state

/-- Close the blocks that are indented further than a column. -/
def closeBlocks (column : Int) : (outer : List Int) → Cutting → Cutting
  | [], state => state
  | previous :: outer, state =>
    if column < state.indent then
      closeBlocks column outer
        { state with tokens := .blockEnd :: state.tokens, indent := previous, outer := outer }
    else
      state

/-- Close blocks by indentation, which has no meaning inside flow collections. -/
def unwind (state : Cutting) (column : Int) : Cutting :=
  if state.inBlock then closeBlocks column state.outer state else state

/-- Whether a block at a column would be a new one; if so, enter it. -/
def enterBlock? (state : Cutting) (column : Nat) : Option Cutting :=
  if state.inBlock && state.indent < column then
    some { state with indent := column, outer := state.indent :: state.outer }
  else
    none

/-- Enter a block at the current column, if it is a new one. -/
def openBlock (state : Cutting) (token : Token) : Cutting :=
  match state.enterBlock? state.cursor.column with
  | some state => state.push token
  | none => state

/-- Insert tokens in front of a place, given with the newest first. -/
def insertAt (state : Cutting) (place : Nat) (inserted : List Token) : Cutting :=
  let (newer, older) := state.tokens.splitAt (state.tokens.length - place)
  { state with tokens := newer ++ inserted ++ older }

/-- Pass spaces, comments and line breaks, given enough steps. -/
def passBlank : (steps : Nat) → Cutting → Cutting
  | 0, state => state
  | steps + 1, state =>
    match state.cursor.skipSpaces.skipComment.lineBreak? with
    | (some _, cursor) =>
      passBlank steps
        { state with cursor := cursor, keyAllowed := state.keyAllowed || state.inBlock }
    | (none, cursor) => { state with cursor := cursor }

/-- Pass the byte order mark, if the document begins with one. -/
def passOrderMark (state : Cutting) : Cutting :=
  if state.cursor.index = 0 ∧ state.cursor.at? '\uFEFF' then
    { state with cursor := state.cursor.step }
  else
    state

/-- Add a token of a number of characters that settles whether a key may follow. -/
def passToken (state : Cutting) (token : Token) (width : Nat) (keyAllowed : Bool) : Cutting :=
  { state.push token with cursor := state.cursor.skip width, keyAllowed := keyAllowed }

/-- Begin or end a document, or read a directive: all blocks are closed. -/
def leaveBlocks (state : Cutting) : Except Fault Cutting := do
  let state ← (state.unwind (-1)).dropCurrent
  return { state with keyAllowed := false }

/-- Open a flow collection, which may be a key. -/
def openFlow (state : Cutting) (token : Token) : Except Fault Cutting := do
  let state ← state.saveCandidate
  return { state.passToken token 1 true with level := state.level + 1 }

/-- Close a flow collection. -/
def closeFlow (state : Cutting) (token : Token) : Except Fault Cutting := do
  let state ← state.dropCurrent
  if state.inBlock then
    malformed
  else
    return { state.passToken token 1 false with level := state.level - 1 }

/-- Add a comma. -/
def addComma (state : Cutting) : Except Fault Cutting := do
  return (← state.dropCurrent).passToken .flowEntry 1 true

/-- Add a dash, which may open a block. -/
def addDash (state : Cutting) : Except Fault Cutting := do
  if state.inBlock && !state.keyAllowed then
    malformed
  else
    let state ← (state.openBlock .blockSequence).dropCurrent
    return state.passToken .blockEntry 1 true

/-- Add a question mark, which may open a block. -/
def addQuestion (state : Cutting) : Except Fault Cutting := do
  if state.inBlock && !state.keyAllowed then
    malformed
  else
    let state ← (state.openBlock .blockMapping).dropCurrent
    return state.passToken .key 1 state.inBlock

/-- Add a colon: it makes the candidate of the current level a key, if there is one. -/
def addColon (state : Cutting) : Except Fault Cutting := do
  match state.candidates.find? (·.level == state.level) with
  | some candidate =>
    let rest := state.candidates.filter fun other => other.level != state.level
    let state := { state with candidates := rest }
    let state :=
      match state.enterBlock? candidate.column with
      | some state => state.insertAt candidate.place [.key, .blockMapping]
      | none => state.insertAt candidate.place [.key]
    return state.passToken .value 1 false
  | none =>
    if state.inBlock && !state.keyAllowed then
      malformed
    else
      let state ← (state.openBlock .blockMapping).dropCurrent
      return state.passToken .value 1 state.inBlock

/-- Add a token that may be a key, with the reader for it. -/
def addNode (state : Cutting) (read : Cursor → Except Fault (Reading Token)) :
    Except Fault Cutting := do
  let state ← state.saveCandidate
  let (token, cursor) ← read state.cursor
  return { state.push token with cursor := cursor, keyAllowed := false }

/-- Add a block scalar. -/
def addBlockScalar (state : Cutting) (folded : Bool) : Except Fault Cutting := do
  let state ← state.dropCurrent
  let (token, cursor) ← readBlock folded state.indent state.cursor
  return { state.push token with cursor := cursor, keyAllowed := true }

/-- Add a plain scalar; a key may follow it only on another line. -/
def addPlain (state : Cutting) : Except Fault Cutting := do
  let state ← state.saveCandidate
  let (token, lineEnded, cursor) := readPlain (!state.inBlock) state.indent state.cursor
  return { state.push token with cursor := cursor, keyAllowed := lineEnded }

/-- Whether a plain scalar can begin with a character, given what follows it. -/
def beginsPlain (state : Cutting) (c : Char) (next? : Option Char) : Bool :=
  !(isBlank c || isBreak c || isIndicator c) ||
    (!endsToken next? && (c == '-' || (state.inBlock && (c == '?' || c == ':'))))

/-- Add the token that begins with the next character. -/
def addToken (state : Cutting) (c : Char) : Except Fault Cutting := do
  let next? := state.cursor.ahead? 1
  let atStart := state.cursor.column == 0
  let alone := !state.inBlock || endsToken next?
  if c == '%' && atStart then
    let state ← state.leaveBlocks
    let (token, cursor) ← readDirective state.cursor
    return { state.push token with cursor := cursor }
  else if atStart && state.cursor.atMark '-' then
    return (← state.leaveBlocks).passToken .documentStart 3 false
  else if atStart && state.cursor.atMark '.' then
    return (← state.leaveBlocks).passToken .documentEnd 3 false
  else if c == '[' then
    state.openFlow .flowSequence
  else if c == '\x7b' then
    state.openFlow .flowMapping
  else if c == ']' then
    state.closeFlow .flowSequenceEnd
  else if c == '\x7d' then
    state.closeFlow .flowMappingEnd
  else if c == ',' then
    state.addComma
  else if c == '-' && endsToken next? then
    state.addDash
  else if c == '?' && alone then
    state.addQuestion
  else if c == ':' && alone then
    state.addColon
  else if c == '*' then
    state.addNode fun cursor => (readName cursor).map fun (name, cursor) => (.alias name, cursor)
  else if c == '&' then
    state.addNode fun cursor => (readName cursor).map fun (name, cursor) => (.anchor name, cursor)
  else if c == '!' then
    state.addNode readTag
  else if (c == '|' || c == '>') && state.inBlock then
    state.addBlockScalar (c == '>')
  else if c == '\'' || c == '"' then
    state.addNode (readQuoted (c == '"'))
  else if state.beginsPlain c next? then
    state.addPlain
  else
    malformed

/-- Cut the rest of a document, given enough steps: all tokens, the newest first. -/
def run : (steps : Nat) → Cutting → Except Fault (List Token)
  | 0, _ => malformed
  | steps + 1, state => do
    let state ← (passBlank (state.cursor.rest.length + 1) state.passOrderMark).dropStale
    let state := state.unwind state.cursor.column
    match state.cursor.peek? with
    | none => return (← (state.unwind (-1)).dropCurrent).tokens
    | some c => run steps (← state.addToken c)

end Cutting

/-- The tokens of a document, in order. -/
def tokensOf (document : List Char) : Except Fault (List Token) := do
  return (← Cutting.run (document.length + 1) { cursor := { rest := document } }).reverse

end MapIngest.Yaml
