import MapIngest.Yaml.Token.Basic

/-!
# Block scalars

A block scalar begins with a header line and takes all lines indented at
least as far as its first line, or as far as the header says.  In the literal
style every line break stands for itself.  In the folded style a single break
between two lines that begin with no blank becomes a space.  The header also
says what becomes of the breaks at the end: all are kept, all are dropped, or
one is kept.
-/

namespace MapIngest.Yaml

/-- What becomes of the line breaks at the end of a block scalar. -/
inductive Ending where
  | clip
  | strip
  | keep
deriving DecidableEq

/-- The ending that a character of the header asks for. -/
def Ending.ofChar? (c : Char) : Option Ending :=
  if c == '+' then some .keep else if c == '-' then some .strip else none

/-- The header of a block scalar. -/
structure BlockHeader where
  ending : Ending
  /-- The indentation relative to the enclosing block, if it is given. -/
  indent? : Option Nat

/-- Read an optional ending. -/
def readEnding (cursor : Cursor) : Option Ending × Cursor :=
  match cursor.peek?.bind Ending.ofChar? with
  | some ending => (some ending, cursor.step)
  | none => (none, cursor)

/-- Read an optional indentation, which is not zero. -/
def readIndent (cursor : Cursor) : Except Fault (Reading (Option Nat)) :=
  match cursor.peek? with
  | some c =>
    if c == '0' then
      malformed
    else if c.isDigit then
      .ok (some (c.toNat - 48), cursor.step)
    else
      .ok (none, cursor)
  | none => .ok (none, cursor)

/-- Read the header of a block scalar: ending and indentation in either order. -/
def readHeader (cursor : Cursor) : Except Fault (Reading BlockHeader) := do
  let (before?, cursor) := readEnding cursor
  let (indent?, cursor) ← readIndent cursor
  let (after?, cursor) :=
    if before?.isNone && indent?.isSome then readEnding cursor else (none, cursor)
  if endsWord cursor.peek? then
    let header : BlockHeader := ⟨(before?.or after?).getD .clip, indent?⟩
    let cursor := cursor.skipSpaces.skipComment
    if endsLine cursor.peek? then return (header, (cursor.lineBreak?).2) else malformed
  else
    malformed

/-- Pass blank lines before the first line: their breaks, and the widest indentation met. -/
def leadingBreaks : (steps : Nat) → (widest : Nat) → Cursor → List Char × Nat × Cursor
  | 0, widest, cursor => ([], widest, cursor)
  | steps + 1, widest, cursor =>
    let cursor := cursor.skipSpaces
    let widest := max widest cursor.column
    match cursor.lineBreak? with
    | (some text, cursor) =>
      let (breaks, widest, cursor) := leadingBreaks steps widest cursor
      (text :: breaks, widest, cursor)
    | (none, cursor) => ([], widest, cursor)

/-- Pass blank lines between two lines: their breaks. -/
def innerBreaks (indent : Nat) : (steps : Nat) → Cursor → List Char × Cursor
  | 0, cursor => ([], cursor)
  | steps + 1, cursor =>
    match (cursor.skipIndent indent).lineBreak? with
    | (some text, cursor) =>
      let (breaks, cursor) := innerBreaks indent steps cursor
      (text :: breaks, cursor)
    | (none, cursor) => ([], cursor)

/-- Whether another line of the scalar begins here. -/
def continues (indent : Nat) (cursor : Cursor) : Bool :=
  cursor.column == indent && cursor.peek?.isSome

/-- The texts of the breaks at the end of a block scalar. -/
def Ending.text (ending : Ending) (last : Option Char) (breaks : List Char) : List Char :=
  match ending with
  | .clip => last.toList
  | .strip => []
  | .keep => last.toList ++ breaks

/-- Read the lines of a block scalar after the given breaks, given enough steps. -/
def readLines (folded : Bool) (ending : Ending) (indent : Nat) :
    (steps : Nat) → (breaks : List Char) → Cursor → List Char × Cursor
  | 0, breaks, cursor => (ending.text none breaks, cursor)
  | steps + 1, breaks, cursor =>
    if continues indent cursor then
      let flush := !cursor.peek?.any isBlank
      let (line, cursor) := cursor.span (!isBreak ·)
      let (last, cursor) := cursor.lineBreak?
      let (following, cursor) := innerBreaks indent (cursor.rest.length + 1) cursor
      if continues indent cursor then
        let joined :=
          if folded && last == some '\n' && flush && !cursor.peek?.any isBlank then
            if following.isEmpty then [' '] else []
          else
            last.toList
        let (rest, cursor) := readLines folded ending indent steps following cursor
        (breaks ++ line ++ joined ++ rest, cursor)
      else
        (breaks ++ line ++ ending.text last following, cursor)
    else
      (ending.text none breaks, cursor)

/-- Read a block scalar inside a block of the given indentation. -/
def readBlock (folded : Bool) (outer : Int) (cursor : Cursor) : Except Fault (Reading Token) := do
  let (header, cursor) ← readHeader cursor.step
  let least := max 1 (outer + 1).toNat
  let steps := cursor.rest.length + 1
  let (breaks, indent, cursor) :=
    match header.indent? with
    | none =>
      let (breaks, widest, cursor) := leadingBreaks steps 0 cursor
      (breaks, max least widest, cursor)
    | some extra =>
      let indent := least + extra - 1
      let (breaks, cursor) := innerBreaks indent steps cursor
      (breaks, indent, cursor)
  let (content, cursor) := readLines folded header.ending indent steps breaks cursor
  return (.scalar (String.ofList content) false, cursor)

end MapIngest.Yaml
