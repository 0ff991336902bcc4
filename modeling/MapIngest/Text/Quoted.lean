import MapIngest.Text.Hex
import MapIngest.Text.Printable

/-!
# Quoted text

Reports quote a text so that it can be read back from one line.  The single
quote is the delimiter, unless the text holds single quotes and no double
quote; then the double quote is.  The delimiter and the backslash are escaped
by a backslash, the three common control characters have letter escapes, and
every other character without a printable form is written by its number in
the narrowest of the escapes of two, four and eight digits.
-/

namespace MapIngest.Text.Quoted

/-- The delimiter that a text is quoted with. -/
def delimiter (text : List Char) : Char :=
  if text.contains '\'' && !text.contains '"' then '"' else '\''

/-- The escape by number of a character without a printable form. -/
def numbered (c : Char) : List Char :=
  let code := c.toNat
  if code < 0x100 then
    '\\' :: 'x' :: hexDigits 2 code
  else if code < 0x10000 then
    '\\' :: 'u' :: hexDigits 4 code
  else
    '\\' :: 'U' :: hexDigits 8 code

/-- How one character is written between two delimiters. -/
def escape (delimiter c : Char) : List Char :=
  if c == delimiter || c == '\\' then
    ['\\', c]
  else if c == '\n' then
    ['\\', 'n']
  else if c == '\r' then
    ['\\', 'r']
  else if c == '\t' then
    ['\\', 't']
  else if isPrintable c then
    [c]
  else
    numbered c

/-- The quoted form of a character list. -/
def encode (text : List Char) : List Char :=
  let mark := delimiter text
  mark :: text.flatMap (escape mark) ++ [mark]

end MapIngest.Text.Quoted

namespace MapIngest.Text

/-- The quoted form of a text. -/
def quoted (text : String) : String :=
  String.ofList (Quoted.encode text.toList)

example : Quoted.encode ['a', '\'', 'b'] = ['"', 'a', '\'', 'b', '"'] := by decide

example : Quoted.encode ['\'', '"', '\n'] = ['\'', '\\', '\'', '"', '\\', 'n', '\''] := by decide

end MapIngest.Text
