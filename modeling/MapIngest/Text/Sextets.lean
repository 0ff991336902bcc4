/-!
# Bytes written as sextets

Bytes are written in text as groups of six bits, one character each, with the
equals sign filling up the last group of four.  Characters outside the
alphabet are passed over.  Reading stops at a complete filling; a text that
ends inside a group is refused.
-/

namespace MapIngest.Text

/-- The value of a character of the alphabet. -/
def sextet? (c : Char) : Option Nat :=
  if 'A' ≤ c && c ≤ 'Z' then
    some (c.toNat - 65)
  else if 'a' ≤ c && c ≤ 'z' then
    some (c.toNat - 71)
  else if c.isDigit then
    some (c.toNat + 4)
  else if c == '+' then
    some 62
  else if c == '/' then
    some 63
  else
    none

/--
Read characters after `place` sextets of a group of four, of which `left` are
the bits not yet written, and after `fillers` equals signs.
-/
def readSextets? : (place left fillers : Nat) → List Char → Option (List UInt8)
  | place, _, _, [] => if place = 0 then some [] else none
  | place, left, fillers, c :: rest =>
    if c == '=' then
      if place < 2 then
        readSextets? place left fillers rest
      else if 4 ≤ place + fillers + 1 then
        some []
      else
        readSextets? place left (fillers + 1) rest
    else
      match sextet? c with
      | none => readSextets? place left fillers rest
      | some value =>
        match place with
        | 0 => readSextets? 1 value 0 rest
        | 1 => (readSextets? 2 (value % 16) 0 rest).map (UInt8.ofNat (left * 4 + value / 16) :: ·)
        | 2 => (readSextets? 3 (value % 4) 0 rest).map (UInt8.ofNat (left * 16 + value / 4) :: ·)
        | _ => (readSextets? 0 0 0 rest).map (UInt8.ofNat (left * 64 + value) :: ·)

/-- The bytes that a text of sextets stands for. -/
def bytesOfSextets? (text : List Char) : Option (List UInt8) :=
  readSextets? 0 0 0 text

example : bytesOfSextets? "aGk=".toList = some [104, 105] := by decide

example : bytesOfSextets? "aGk".toList = none := by decide

end MapIngest.Text
