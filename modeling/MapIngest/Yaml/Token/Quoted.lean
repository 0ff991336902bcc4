import MapIngest.Text.Hex
import MapIngest.Value.Conversion
import MapIngest.Yaml.Token.Basic

/-!
# Quoted scalars

Between single quotes, only a doubled quote is special.  Between double
quotes, a backslash introduces an escape: a letter for a common control
character, a number of two, four or eight hexadecimal digits, or a line break,
which is dropped.  In both forms a line break is folded: one break becomes a
space, and further breaks stand for themselves.  The mark between two
documents may not appear at the beginning of a line.
-/

namespace MapIngest.Yaml

/-- The characters that letter escapes stand for. -/
def letterEscapes : List (Char × Char) :=
  [('0', '\x00'), ('a', '\x07'), ('b', '\x08'), ('t', '\x09'), ('\t', '\x09'), ('n', '\x0A'),
    ('v', '\x0B'), ('f', '\x0C'), ('r', '\x0D'), ('e', '\x1B'), (' ', ' '), ('"', '"'),
    ('\\', '\\'), ('/', '/'), ('N', '\x85'), ('_', '\xA0'), ('L', '\u2028'), ('P', '\u2029')]

/-- The number of hexadecimal digits after the letter of a numbered escape. -/
def escapeWidth? (c : Char) : Option Nat :=
  if c == 'x' then some 2 else if c == 'u' then some 4 else if c == 'U' then some 8 else none

/--
The character with a number.  A number that is kept free of characters stands
for the replacement character; beyond the last character a number is refused.
-/
def numberedChar (code : Nat) : Except Fault Char :=
  if 0x10FFFF < code then
    Value.refuse .noCharacter
  else if 0xD800 ≤ code ∧ code ≤ 0xDFFF then
    .ok '\uFFFD'
  else
    .ok (Char.ofNat code)

/-- Pass line breaks and the blanks before and between them, given enough steps. -/
def readFoldedBreaks : (steps : Nat) → Cursor → Except Fault (Reading (List Char))
  | 0, cursor => .ok ([], cursor)
  | steps + 1, cursor =>
    if cursor.atSeparator then
      malformed
    else
      match (cursor.skipWhile isBlank).lineBreak? with
      | (some text, cursor) => do
        let (breaks, cursor) ← readFoldedBreaks steps cursor
        return (text :: breaks, cursor)
      | (none, cursor) => .ok ([], cursor)

/-- Read the blanks inside a quoted scalar, folding line breaks. -/
def readQuotedBlanks (cursor : Cursor) : Except Fault (Reading (List Char)) := do
  let (blanks, cursor) := cursor.span isBlank
  match cursor.peek?, cursor.lineBreak? with
  | none, _ => malformed
  | some _, (none, _) => return (blanks, cursor)
  | some _, (some first, cursor) =>
    let (breaks, cursor) ← readFoldedBreaks (cursor.rest.length + 1) cursor
    if first != '\n' then
      return (first :: breaks, cursor)
    else if breaks.isEmpty then
      return ([' '], cursor)
    else
      return (breaks, cursor)

/-- Read an escape after its backslash. -/
def readEscape (cursor : Cursor) : Except Fault (Reading (List Char)) := do
  match cursor.peek? with
  | none => malformed
  | some c =>
    match letterEscapes.lookup c, escapeWidth? c with
    | some meaning, _ => return ([meaning], cursor.step)
    | none, some width =>
      let digits := cursor.step.rest.take width
      match Text.ofHexDigits? digits with
      | some code =>
        if digits.length = width then
          return ([← numberedChar code], cursor.step.skip width)
        else
          malformed
      | none => malformed
    | none, none =>
      if isBreak c then
        readFoldedBreaks cursor.rest.length cursor.step
      else
        malformed

/-- Whether a character stands for itself inside a quoted scalar. -/
def isOrdinary (c : Char) : Bool :=
  !(c == '\'' || c == '"' || c == '\\' || isBlank c || isBreak c)

/-- Read the inside of a quoted scalar up to its closing quote, given enough steps. -/
def readInside (double : Bool) : (steps : Nat) → Cursor → Except Fault (Reading (List Char))
  | 0, _ => malformed
  | steps + 1, cursor =>
    match cursor.peek? with
    | none => malformed
    | some c =>
      if c == (if double then '"' else '\'') then
        if !double && cursor.ahead? 1 == some '\'' then do
          let (rest, cursor) ← readInside double steps (cursor.skip 2)
          return ('\'' :: rest, cursor)
        else
          .ok ([], cursor.step)
      else do
        let (piece, cursor) ←
          if isBlank c || isBreak c then
            readQuotedBlanks cursor
          else if double && c == '\\' then
            readEscape cursor.step
          else if isOrdinary c then
            .ok (cursor.span isOrdinary)
          else
            .ok ([c], cursor.step)
        let (rest, cursor) ← readInside double steps cursor
        return (piece ++ rest, cursor)

/-- Read a quoted scalar. -/
def readQuoted (double : Bool) (cursor : Cursor) : Except Fault (Reading Token) := do
  let (content, cursor) ← readInside double (cursor.rest.length + 1) cursor.step
  return (.scalar (String.ofList content) false, cursor)

end MapIngest.Yaml
