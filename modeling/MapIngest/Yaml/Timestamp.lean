import MapIngest.Decimal.Layout
import MapIngest.Value.Conversion

/-!
# Dates and points in time

A date is written with four, two and two digits.  A point in time adds hours,
minutes and seconds, an optional fraction, and an optional distance from
universal time; there the month and the day may have one digit.  The value of
either is its normal form: two-digit fields, a fraction of six digits if it is
not zero, and a distance in hours and minutes.
-/

namespace MapIngest.Yaml

/-- The time of day. -/
structure ClockTime where
  hour : Nat
  minute : Nat
  second : Nat
  /-- The fraction of the second in millionths. -/
  micros : Nat
  /-- The distance from universal time in minutes, if it is given. -/
  zone? : Option Int
deriving DecidableEq, Repr

/-- A date, or a point in time. -/
structure Timestamp where
  year : Nat
  month : Nat
  day : Nat
  clock? : Option ClockTime
deriving DecidableEq, Repr

namespace Timestamp

/-- Read a number of a least and a greatest count of digits. -/
def number? (least most : Nat) (text : List Char) : Option (Nat × List Char) :=
  let digits := (text.take most).takeWhile Char.isDigit
  if digits.length < least then
    none
  else
    some (Decimal.digitsValue digits, text.drop digits.length)

/-- Read one given character. -/
def mark? (c : Char) : List Char → Option (List Char)
  | d :: rest => if d == c then some rest else none
  | [] => none

/-- Drop leading spaces and tabs. -/
def dropBlanks (text : List Char) : List Char :=
  text.dropWhile fun c => c == ' ' || c == '\t'

/-- The first six digits of a fraction, as a number of millionths. -/
def micros (digits : List Char) : Nat :=
  Decimal.digitsValue ((digits ++ List.replicate 6 '0').take 6)

/-- Read an optional distance from universal time, up to the end. -/
def readZone? (text : List Char) : Option (Option Int) :=
  match dropBlanks text with
  | [] => if text.isEmpty then some none else none
  | ['Z'] => some (some 0)
  | sign :: rest =>
    if sign == '+' || sign == '-' then do
      let (hours, rest) ← number? 1 2 rest
      let minutes ←
        match rest with
        | [] => some 0
        | _ => do
          let (minutes, rest) ← number? 2 2 (← mark? ':' rest)
          if rest.isEmpty then some minutes else none
      let size : Int := Int.ofNat (60 * hours + minutes)
      return some (if sign == '-' then -size else size)
    else
      none

/-- Read an optional fraction of a second. -/
def fraction (text : List Char) : Nat × List Char :=
  match text with
  | '.' :: rest => (micros (rest.takeWhile Char.isDigit), rest.dropWhile Char.isDigit)
  | _ => (0, text)

/-- Read a time of day up to the end. -/
def readClock? (text : List Char) : Option ClockTime := do
  let (hour, rest) ← number? 1 2 text
  let (minute, rest) ← number? 2 2 (← mark? ':' rest)
  let (second, rest) ← number? 2 2 (← mark? ':' rest)
  let (fraction, rest) := fraction rest
  let zone ← readZone? rest
  return ⟨hour, minute, second, fraction, zone⟩

/-- Read what separates a date from a time of day: a letter, or blanks. -/
def separator? : List Char → Option (List Char)
  | 'T' :: rest => some rest
  | 't' :: rest => some rest
  | text => if text == dropBlanks text then none else some (dropBlanks text)

/-- Read a date or a point in time. -/
def read? (text : List Char) : Option Timestamp := do
  let (year, rest) ← number? 4 4 text
  let (month, rest) ← number? 1 2 (← mark? '-' rest)
  let (day, rest) ← number? 1 2 (← mark? '-' rest)
  if rest.isEmpty then
    return ⟨year, month, day, none⟩
  else
    return ⟨year, month, day, some (← readClock? (← separator? rest))⟩

/-- Whether a plain text is taken for a date or a point in time. -/
def isWritten (text : List Char) : Bool :=
  match read? text with
  | some stamp => stamp.clock?.isSome || text.length == 10
  | none => false

/-- Whether a year has a leap day. -/
def isLeap (year : Nat) : Bool :=
  year % 4 == 0 && (year % 100 != 0 || year % 400 == 0)

/-- The number of days of a month. -/
def daysIn (year month : Nat) : Nat :=
  if month = 2 then
    if isLeap year then 29 else 28
  else if month = 4 ∨ month = 6 ∨ month = 9 ∨ month = 11 then
    30
  else
    31

/-- Whether all fields of a time of day are in range. -/
def clockValid (clock : ClockTime) : Bool :=
  clock.hour < 24 && clock.minute < 60 && clock.second < 60 &&
    clock.zone?.all fun zone => zone.natAbs < 24 * 60

/-- Whether all fields are in range. -/
def isValid (stamp : Timestamp) : Bool :=
  1 ≤ stamp.year && 1 ≤ stamp.month && stamp.month ≤ 12 && 1 ≤ stamp.day &&
    stamp.day ≤ daysIn stamp.year stamp.month && stamp.clock?.all clockValid

/-- A number with leading zeros. -/
def padded (width number : Nat) : List Char :=
  let digits := Decimal.naturalText number
  List.replicate (width - digits.length) '0' ++ digits

/-- The normal form of a time of day. -/
def clockText (clock : ClockTime) : List Char :=
  let fraction := if clock.micros = 0 then [] else '.' :: padded 6 clock.micros
  let zone :=
    match clock.zone? with
    | none => []
    | some zone =>
      (if zone < 0 then '-' else '+') :: padded 2 (zone.natAbs / 60) ++
        ':' :: padded 2 (zone.natAbs % 60)
  'T' :: padded 2 clock.hour ++ ':' :: padded 2 clock.minute ++
    ':' :: padded 2 clock.second ++ fraction ++ zone

/-- The normal form of a date or a point in time. -/
def isoText (stamp : Timestamp) : List Char :=
  padded 4 stamp.year ++ '-' :: padded 2 stamp.month ++ '-' :: padded 2 stamp.day ++
    match stamp.clock? with
    | none => []
    | some clock => clockText clock

/-- The value that a text tagged as a date or a point in time stands for. -/
def toScalar (content : String) : Except Fault Scalar :=
  match read? content.toList with
  | none => Value.refuse (.noField "year")
  | some stamp =>
    if stamp.isValid then
      .ok (.date (String.ofList stamp.isoText))
    else
      Value.refuse .calendar

example : (read? "2001-12-14t21:59:43.10-05:00".toList).map isoText =
    some "2001-12-14T21:59:43.100000-05:00".toList := by decide

end Timestamp

end MapIngest.Yaml
