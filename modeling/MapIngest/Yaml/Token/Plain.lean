import MapIngest.Yaml.Token.Basic

/-!
# Plain scalars

A plain scalar is a run of words on one or more lines.  It ends at a colon
that is followed by a space, at a comment, at a mark between documents, where
the indentation falls back to the enclosing block, and inside a flow
collection also at a mark of that collection.  Line breaks between its words
are folded as in quoted scalars.
-/

namespace MapIngest.Yaml

/-- Whether a plain scalar cannot go on with a character, given what follows it. -/
def endsPlain (inFlow : Bool) (c : Char) (next? : Option Char) : Bool :=
  isBlank c || isBreak c ||
    (c == ':' && (endsToken next? || (inFlow && next?.any isFlowMark))) ||
    (inFlow && (isFlowMark c || c == '?'))

/-- The leading word of a plain scalar. -/
def plainWord (inFlow : Bool) : List Char → List Char
  | [] => []
  | c :: rest => if endsPlain inFlow c rest.head? then [] else c :: plainWord inFlow rest

/-- Pass the lines between two words: their breaks, or nothing at a mark between documents. -/
def plainBreaks? : (steps : Nat) → Cursor → Option (List Char) × Cursor
  | 0, cursor => (some [], cursor)
  | steps + 1, cursor =>
    let cursor := cursor.skipSpaces
    match cursor.lineBreak? with
    | (none, cursor) => (some [], cursor)
    | (some text, cursor) =>
      if cursor.atSeparator then
        (none, cursor)
      else
        let (breaks?, cursor) := plainBreaks? steps cursor
        (breaks?.map (text :: ·), cursor)

/-- What stands between two words: the text for it, whether a line ended, the position after. -/
def plainGap (cursor : Cursor) : List Char × Bool × Cursor :=
  let (spaces, cursor) := cursor.span (· == ' ')
  match cursor.lineBreak? with
  | (none, cursor) => (spaces, false, cursor)
  | (some first, cursor) =>
    if cursor.atSeparator then
      ([], true, cursor)
    else
      match plainBreaks? (cursor.rest.length + 1) cursor with
      | (none, cursor) => ([], true, cursor)
      | (some breaks, cursor) =>
        if first != '\n' then
          (first :: breaks, true, cursor)
        else if breaks.isEmpty then
          ([' '], true, cursor)
        else
          (breaks, true, cursor)

/--
The text of a plain scalar after the given gap, and whether a line ended after
its last word, given enough steps.
-/
def readWords (inFlow : Bool) (indent : Int) :
    (steps : Nat) → (gap : List Char) → (lineEnded : Bool) → Cursor → List Char × Bool × Cursor
  | 0, _, lineEnded, cursor => ([], lineEnded, cursor)
  | steps + 1, gap, lineEnded, cursor =>
    let word := plainWord inFlow cursor.rest
    if cursor.at? '#' || word.isEmpty then
      ([], lineEnded, cursor)
    else
      let (next, ended, cursor) := plainGap (cursor.skip word.length)
      if next.isEmpty || cursor.at? '#' || (!inFlow && (cursor.column : Int) < indent) then
        (gap ++ word, ended, cursor)
      else
        let (rest, ended, cursor) := readWords inFlow indent steps next ended cursor
        (gap ++ word ++ rest, ended, cursor)

/-- Read a plain scalar, and whether a line ended after it. -/
def readPlain (inFlow : Bool) (outer : Int) (cursor : Cursor) : Token × Bool × Cursor :=
  let (content, lineEnded, cursor) :=
    readWords inFlow (outer + 1) (cursor.rest.length + 1) [] false cursor
  (.scalar (String.ofList content) true, lineEnded, cursor)

end MapIngest.Yaml
