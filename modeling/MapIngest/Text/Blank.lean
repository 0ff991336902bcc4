/-!
# Blank characters

Wherever a number is read from a text, the text is trimmed of blanks.  Which
characters are blank depends on who reads: for a setting they are white space
in the sense of the Unicode property of that name, for an element of an array
also the four separators among the control characters, and in a byte string
only the blanks of the basic range.  Trimming by a class removes its characters
at the two ends of a text and nowhere else.
-/

namespace MapIngest.Text

/-- The Unicode property `White_Space`. -/
def isWhiteSpace (c : Char) : Bool :=
  let code := c.toNat
  (9 ≤ code && code ≤ 13) || code == 0x20 || code == 0x85 || code == 0xA0 ||
    code == 0x1680 || (0x2000 ≤ code && code ≤ 0x200A) || code == 0x2028 ||
    code == 0x2029 || code == 0x202F || code == 0x205F || code == 0x3000

/-- White space, or one of the separators of files, groups, records and units. -/
def isBlank (c : Char) : Bool :=
  isWhiteSpace c || (0x1C ≤ c.toNat && c.toNat ≤ 0x1F)

/-- The blanks of the basic range: tab, the ends of lines and pages, and space. -/
def isBasicBlank (c : Char) : Bool :=
  (9 ≤ c.toNat && c.toNat ≤ 13) || c.toNat == 0x20

/-- Remove the characters of a class from both ends of a text. -/
def trim (blank : Char → Bool) (text : List Char) : List Char :=
  (((text.dropWhile blank).reverse).dropWhile blank).reverse

@[simp]
theorem trim_nil (blank : Char → Bool) : trim blank [] = [] := rfl

end MapIngest.Text
