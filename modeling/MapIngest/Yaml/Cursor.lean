import MapIngest.Yaml.Character

/-!
# Positions in a document

A cursor is what remains of a document, together with the number of
characters passed and the line and column reached.  The columns decide the
nesting of blocks, and the line and the number of characters decide which
tokens can be keys.  A byte order mark takes no column.
-/

namespace MapIngest.Yaml

/-- A position in a document. -/
structure Cursor where
  rest : List Char
  index : Nat := 0
  line : Nat := 0
  column : Nat := 0

namespace Cursor

/-- The next character. -/
def peek? (cursor : Cursor) : Option Char :=
  cursor.rest.head?

/-- The character after a number of others. -/
def ahead? (cursor : Cursor) (count : Nat) : Option Char :=
  cursor.rest[count]?

/-- Whether the next character is the given one. -/
def at? (cursor : Cursor) (c : Char) : Bool :=
  cursor.peek? == some c

/-- Pass one character. -/
def step (cursor : Cursor) : Cursor :=
  match cursor.rest with
  | [] => cursor
  | c :: rest =>
    if isBreak c then
      ⟨rest, cursor.index + 1, cursor.line + 1, 0⟩
    else if c == '\uFEFF' then
      ⟨rest, cursor.index + 1, cursor.line, cursor.column⟩
    else
      ⟨rest, cursor.index + 1, cursor.line, cursor.column + 1⟩

/-- Pass a number of characters. -/
def skip : (count : Nat) → Cursor → Cursor
  | 0, cursor => cursor
  | count + 1, cursor => skip count cursor.step

/-- Pass the leading characters of a class: these characters, and the position after them. -/
def span (p : Char → Bool) (cursor : Cursor) : List Char × Cursor :=
  let run := cursor.rest.takeWhile p
  (run, cursor.skip run.length)

/-- Pass the leading characters of a class. -/
def skipWhile (p : Char → Bool) (cursor : Cursor) : Cursor :=
  (cursor.span p).2

/-- Pass the leading spaces. -/
def skipSpaces (cursor : Cursor) : Cursor :=
  cursor.skipWhile (· == ' ')

/-- Pass spaces up to a column. -/
def skipIndent (cursor : Cursor) (column : Nat) : Cursor :=
  let run := cursor.rest.takeWhile (· == ' ')
  cursor.skip (min run.length (column - cursor.column))

/-- Pass a comment, if one begins here. -/
def skipComment (cursor : Cursor) : Cursor :=
  if cursor.at? '#' then cursor.skipWhile (!isBreak ·) else cursor

/-- Pass one line break: its text, if there is one, and the position after it. -/
def lineBreak? (cursor : Cursor) : Option Char × Cursor :=
  match cursor.peek? with
  | some c => if isBreak c then (some (breakText c), cursor.step) else (none, cursor)
  | none => (none, cursor)

/-- Whether a line begins here with a mark of three characters that stands alone. -/
def atMark (cursor : Cursor) (mark : Char) : Bool :=
  cursor.rest.take 3 == [mark, mark, mark] && endsToken (cursor.ahead? 3)

/-- Whether a mark between documents stands here. -/
def atSeparator (cursor : Cursor) : Bool :=
  cursor.atMark '-' || cursor.atMark '.'

end Cursor

end MapIngest.Yaml
