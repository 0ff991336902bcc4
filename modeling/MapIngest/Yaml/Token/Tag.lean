import MapIngest.Text.Encoding
import MapIngest.Text.Hex
import MapIngest.Yaml.Token.Basic

/-!
# Tags and directives

A tag is written in full between angle brackets, or as a handle and a suffix,
or as a lone exclamation mark.  A suffix may hold bytes written as percent
escapes, which together must be valid in the text encoding.  A directive line
gives the version of the format, or declares a handle.
-/

namespace MapIngest.Yaml

/-- The bytes of leading percent escapes and the rest, if the escapes are well formed. -/
def escapedBytes? : List Char → Option (List UInt8 × List Char)
  | '%' :: high :: low :: rest => do
    let byte ← Text.ofHexDigits? [high, low]
    let (bytes, rest) ← escapedBytes? rest
    return (UInt8.ofNat byte :: bytes, rest)
  | '%' :: _ => none
  | rest => some ([], rest)

/-- The text of a tag with its escapes resolved, given enough steps for its length. -/
def tagText? : (steps : Nat) → List Char → Option (List Char)
  | 0, _ => some []
  | _ + 1, [] => some []
  | steps + 1, '%' :: rest => do
    let (bytes, rest) ← escapedBytes? ('%' :: rest)
    let text ← Text.decode? bytes
    return text.toList ++ (← tagText? steps rest)
  | steps + 1, c :: rest => (tagText? steps rest).map (c :: ·)

/-- Read the suffix of a tag, which is not empty. -/
def readTagText (cursor : Cursor) : Except Fault (Reading String) :=
  let (run, cursor) := cursor.span isTagChar
  match tagText? run.length run with
  | some text => if run.isEmpty then malformed else .ok (String.ofList text, cursor)
  | none => malformed

/-- Read the handle of a tag: a name between exclamation marks, or one mark alone. -/
def readTagHandle (cursor : Cursor) : Except Fault (Reading String) :=
  if !cursor.at? '!' then
    malformed
  else
    let (name, after) := cursor.step.span isNameChar
    if name.isEmpty && after.at? ' ' then
      .ok ("!", after)
    else if after.at? '!' then
      .ok (String.ofList ('!' :: name ++ ['!']), after.step)
    else
      malformed

/-- Require a word to end here. -/
def finished {α : Type} (result : α) (cursor : Cursor) : Except Fault (Reading α) :=
  if endsWord cursor.peek? then .ok (result, cursor) else malformed

/-- Read a tag. -/
def readTag (cursor : Cursor) : Except Fault (Reading Token) :=
  if cursor.ahead? 1 == some '<' then do
    let (suffix, cursor) ← readTagText (cursor.skip 2)
    if cursor.at? '>' then finished (.tag none suffix) cursor.step else malformed
  else if endsToken (cursor.ahead? 1) then
    finished (.tag none "!") cursor.step
  else
    let word := cursor.step.rest.takeWhile fun c => !endsWord (some c)
    if word.contains '!' then do
      let (handle, cursor) ← readTagHandle cursor
      let (suffix, cursor) ← readTagText cursor
      finished (.tag (some handle) suffix) cursor
    else do
      let (suffix, cursor) ← readTagText cursor.step
      finished (.tag (some "!") suffix) cursor

/-- Pass spaces and a comment to the end of the line, and the line break. -/
def finishLine {α : Type} (result : α) (cursor : Cursor) : Except Fault (Reading α) :=
  let cursor := cursor.skipSpaces.skipComment
  if endsLine cursor.peek? then .ok (result, (cursor.lineBreak?).2) else malformed

/-- The number that basic digits spell. -/
def numberOf (digits : List Char) : Nat :=
  digits.foldl (fun value digit => 10 * value + (digit.toNat - 48)) 0

/-- Read a version directive after its name. -/
def readVersion (cursor : Cursor) : Except Fault (Reading Directive) :=
  let (major, cursor) := cursor.skipSpaces.span Char.isDigit
  if major.isEmpty || !cursor.at? '.' then
    malformed
  else
    let (minor, cursor) := cursor.step.span Char.isDigit
    if minor.isEmpty then malformed else finished (.version (numberOf major)) cursor

/-- Read a handle declaration after its name. -/
def readAbbreviation (cursor : Cursor) : Except Fault (Reading Directive) := do
  let (handle, cursor) ← readTagHandle cursor.skipSpaces
  if cursor.at? ' ' then
    let (meaning, cursor) ← readTagText cursor.skipSpaces
    finished (.abbreviation handle meaning) cursor
  else
    malformed

/-- Read a directive line. -/
def readDirective (cursor : Cursor) : Except Fault (Reading Token) := do
  let (name, cursor) := cursor.step.span isNameChar
  if name.isEmpty || !endsWord cursor.peek? then
    malformed
  else
    let (content, cursor) ←
      if name == "YAML".toList then
        readVersion cursor
      else if name == "TAG".toList then
        readAbbreviation cursor
      else
        .ok (.unknown, cursor.skipWhile (!isBreak ·))
    finishLine (.directive content) cursor

end MapIngest.Yaml
