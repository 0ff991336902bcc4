import MapIngest.Fault.Basic
import MapIngest.Yaml.Cursor

/-!
# Tokens of a document

A document is first cut into tokens.  Indentation is made explicit by tokens
that open and close blocks.  A scalar token holds the text after escapes and
line folding, and whether it was written plain, since only a plain scalar can
stand for something other than a text.

A reader of tokens returns what it read with the position after it, or a
fault.
-/

namespace MapIngest.Yaml

/-- A directive before a document. -/
inductive Directive where
  /-- The version of the format. -/
  | version (major : Nat)
  /-- An abbreviation for the beginning of tags. -/
  | abbreviation (handle meaning : String)
  | unknown
deriving DecidableEq

/-- A token. -/
inductive Token where
  | directive (content : Directive)
  | documentStart
  | documentEnd
  | blockSequence
  | blockMapping
  | blockEnd
  | flowSequence
  | flowSequenceEnd
  | flowMapping
  | flowMappingEnd
  | blockEntry
  | flowEntry
  | key
  | value
  | alias (name : String)
  | anchor (name : String)
  /-- A tag; without a handle, the suffix is all of it. -/
  | tag (handle : Option String) (suffix : String)
  | scalar (content : String) (plain : Bool)
deriving DecidableEq

/-- What was read, and the position after it. -/
abbrev Reading (α : Type) := α × Cursor

/-- The document is not well formed. -/
def malformed {α : Type} : Except Fault α :=
  .error .document

/-- Read a name of an anchor or an alias, after its indicator. -/
def readName (cursor : Cursor) : Except Fault (Reading String) :=
  let (name, cursor) := cursor.step.span isNameChar
  let ends := endsToken cursor.peek? ||
    cursor.peek?.any fun c => "?:,]\x7d%@`".toList.contains c
  if name.isEmpty || !ends then malformed else .ok (String.ofList name, cursor)

end MapIngest.Yaml
