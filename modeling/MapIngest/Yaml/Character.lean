/-!
# Characters of a document

A document is a sequence of characters, of which the control characters are
not permitted, apart from the tab, the line breaks and the next-line mark.
Line breaks of either older convention are read as the plain line feed.
The remaining line separators stand for themselves.

The file also states the classes of characters by which tokens are told
apart.  A class is asked of an optional character, because a token often ends
where the document does.
-/

namespace MapIngest.Yaml

/-- Whether a character may appear in a document. -/
def isPermitted (c : Char) : Bool :=
  let code := c.toNat
  code == 0x09 || code == 0x0A || code == 0x0D || (0x20 ≤ code && code ≤ 0x7E) ||
    code == 0x85 || (0xA0 ≤ code && code ≤ 0xD7FF) || (0xE000 ≤ code && code ≤ 0xFFFD) ||
    0x10000 ≤ code

/-- Write every carriage return, with or without a line feed, as one line feed. -/
def plainBreaks : List Char → List Char
  | '\r' :: '\n' :: rest => '\n' :: plainBreaks rest
  | '\r' :: rest => '\n' :: plainBreaks rest
  | c :: rest => c :: plainBreaks rest
  | [] => []

/-- Whether a character ends a line. -/
def isBreak (c : Char) : Bool :=
  c == '\n' || c == '\x85' || c == '\u2028' || c == '\u2029'

/-- What a line break contributes to a text: the next-line mark counts as a line feed. -/
def breakText (c : Char) : Char :=
  if c == '\x85' then '\n' else c

/-- Whether a character is a space or a tab. -/
def isBlank (c : Char) : Bool :=
  c == ' ' || c == '\t'

/-- Whether the document or the line ends here. -/
def endsLine (c? : Option Char) : Bool :=
  c?.all isBreak

/-- Whether the document or the line ends here, or a space follows. -/
def endsWord (c? : Option Char) : Bool :=
  c?.all fun c => c == ' ' || isBreak c

/-- Whether the document or the line ends here, or a space or a tab follows. -/
def endsToken (c? : Option Char) : Bool :=
  c?.all fun c => isBlank c || isBreak c

/-- Letters, digits, hyphen and underscore, which names are made of. -/
def isNameChar (c : Char) : Bool :=
  c.isAlphanum || c == '-' || c == '_'

/-- The characters that tags are made of. -/
def isTagChar (c : Char) : Bool :=
  c.isAlphanum || "-;/?:@&=+$,_.!~*'()[]%".toList.contains c

/-- The characters that delimit flow collections and their entries. -/
def isFlowMark (c : Char) : Bool :=
  c == ',' || c == '[' || c == ']' || c == '\x7b' || c == '\x7d'

/-- The characters that a plain scalar cannot begin with. -/
def isIndicator (c : Char) : Bool :=
  isFlowMark c || "-?:#&*!|>'\"%@`".toList.contains c

end MapIngest.Yaml
