import VolumeAttacher.Number.Numeral
import VolumeAttacher.Text.Blank

/-!
# Timestamps

Instants of the calendar, as cluster objects write them: date, time and an offset from UTC. Reading
is lenient on blanks, on leading zeros and on the letter between date and time; writing is in UTC
and in whole seconds. Two timestamps are equal when they are the same instant.
-/

namespace VolumeAttacher

/-- An instant of the calendar. -/
structure Timestamp where
  /-- Seconds since the start of 1970, UTC. -/
  seconds : Int
  /-- Nanoseconds into the second; a leap second goes on past the first billion. -/
  nanoseconds : Nat
deriving DecidableEq, Repr

namespace Timestamp

def isLeapYear (year : Int) : Bool :=
  year % 4 = 0 && (year % 100 ≠ 0 || year % 400 = 0)

def daysInMonth (year : Int) (month : Nat) : Nat :=
  match month with
  | 2 => if isLeapYear year then 29 else 28
  | 4 | 6 | 9 | 11 => 30
  | _ => 31

/-- Days from the start of 1970 to a date. The year is counted from March, so that a leap day is the
last of its year, and `153 / 5` days to a month follow the lengths from March on. -/
def daysOfDate (year : Int) (month day : Nat) : Int :=
  let year := if month ≤ 2 then year - 1 else year
  let month := if month ≤ 2 then month + 9 else month - 3
  let dayOfYear : Int := (153 * month + 2) / 5 + day - 1
  year * 365 + year / 4 - year / 100 + year / 400 + dayOfYear - 719468

/-- The first day of the calendar, the start of the year -262143. -/
def firstDay : Int := daysOfDate (-262143) 1 1

/-- The last day of the calendar, the end of the year 262142. -/
def lastDay : Int := daysOfDate 262142 12 31

def isInCalendar (day : Int) : Bool :=
  firstDay ≤ day && day ≤ lastDay

/-- The date that many days after the start of 1970, by eras of 400 years. -/
def dateOfDays (days : Int) : Int × Nat × Nat :=
  let days := days + 719468
  let era := days / 146097
  let dayOfEra := (days % 146097).toNat
  let yearOfEra := (dayOfEra - dayOfEra / 1460 + dayOfEra / 36524 - dayOfEra / 146096) / 365
  let dayOfYear := dayOfEra - (365 * yearOfEra + yearOfEra / 4 - yearOfEra / 100)
  let month := (5 * dayOfYear + 2) / 153
  let day := dayOfYear - (153 * month + 2) / 5 + 1
  let year := (yearOfEra : Int) + era * 400
  if month < 10 then (year, month + 3, day) else (year + 1, month - 9, day)

/-- A year: four digits, with a sign and more digits outside the years 0 to 9999. -/
def yearText (year : Int) : String :=
  if 0 ≤ year ∧ year ≤ 9999 then Text.padded 4 year.toNat
  else (if year < 0 then "-" else "+") ++ Text.padded 4 year.natAbs

/-- The timestamp in UTC and in whole seconds. -/
def text (timestamp : Timestamp) : String :=
  let (year, month, day) := dateOfDays (timestamp.seconds / 86400)
  let time := (timestamp.seconds % 86400).toNat
  let second := time % 60 + timestamp.nanoseconds / 1000000000
  yearText year ++ "-" ++ Text.padded 2 month ++ "-" ++ Text.padded 2 day ++ "T"
    ++ Text.padded 2 (time / 3600) ++ ":" ++ Text.padded 2 (time / 60 % 60) ++ ":"
    ++ Text.padded 2 second ++ "Z"

/-- Reads a number of one to `width` digits after blanks. -/
def number? (width : Nat) (text : List Char) : Option (Nat × List Char) :=
  let text := Text.skipBlanks text
  let digits := (text.take width).takeWhile Char.isDigit
  if digits = [] then none else some (Numeral.ofDigits digits, text.drop digits.length)

/-- Reads a year after blanks: up to four digits, or a sign and any number of them. -/
def year? (text : List Char) : Option (Int × List Char) :=
  match Text.skipBlanks text with
  | '-' :: rest => (digits? rest).map fun (year, rest) => (-Int.ofNat year, rest)
  | '+' :: rest => (digits? rest).map fun (year, rest) => (Int.ofNat year, rest)
  | rest => (number? 4 rest).map fun (year, rest) => (Int.ofNat year, rest)
where
  digits? (text : List Char) : Option (Nat × List Char) :=
    match Numeral.splitDigits text with
    | ([], _) => none
    | (digits, rest) => some (Numeral.ofDigits digits, rest)

def separator? (c : Char) (text : List Char) : Option (List Char) :=
  match Text.skipBlanks text with
  | first :: rest => if first = c then some (Text.skipBlanks rest) else none
  | [] => none

/-- Reads the fraction of a second in nanoseconds; digits after the ninth are dropped. -/
def fraction? (text : List Char) : Option (Nat × List Char) :=
  match text with
  | '.' :: rest =>
      match Numeral.splitDigits rest with
      | ([], _) => none
      | (digits, rest) =>
          let places := digits.take 9
          some (Numeral.ofDigits places * Nat.pow 10 (9 - places.length), rest)
  | rest => some (0, rest)

def twoDigits? : List Char → Option (Nat × List Char)
  | a :: b :: rest =>
      if a.isDigit && b.isDigit then some (Numeral.ofDigits [a, b], rest) else none
  | _ => none

/-- Reads an offset from UTC in seconds: `Z`, `UTC`, or hours and minutes with a sign. -/
def offset? (text : List Char) : Option (Int × List Char) :=
  match text with
  | 'Z' :: rest | 'z' :: rest => some (0, rest)
  | sign :: rest =>
      if (text.take 3).map Char.toUpper = ['U', 'T', 'C'] then some (0, text.drop 3)
      else do
        let direction : Int ←
          if sign = '+' then some 1
          else if sign = '-' ∨ sign = '−' then some (-1)
          else none
        let (hours, rest) ← twoDigits? rest
        let rest := rest.dropWhile fun c => c = ':' || Text.isBlank c
        let (minutes, rest) ← twoDigits? rest
        guard (minutes < 60 ∧ hours < 24)
        return (direction * (hours * 3600 + minutes * 60 : Nat), rest)
  | [] => none

/-- The instant that a text writes. Both its own date and its date in UTC are in the calendar. -/
def ofText? (text : String) : Option Timestamp := do
  let (year, rest) ← year? text.toList
  let (month, rest) ← number? 2 (← separator? '-' rest)
  let (day, rest) ← number? 2 (← separator? '-' rest)
  let rest ←
    match rest with
    | 'T' :: rest | 't' :: rest | ' ' :: rest => some rest
    | _ => none
  let (hour, rest) ← number? 2 rest
  let (minute, rest) ← number? 2 (← separator? ':' rest)
  let (second, rest) ← number? 2 (← separator? ':' rest)
  let (fraction, rest) ← fraction? rest
  let (offset, rest) ← offset? (Text.skipBlanks rest)
  guard (Text.skipBlanks rest = [])
  guard (1 ≤ month ∧ month ≤ 12 ∧ 1 ≤ day ∧ day ≤ daysInMonth year month)
  guard (hour < 24 ∧ minute < 60 ∧ second ≤ 60)
  let leap := if second = 60 then 1 else 0
  let time : Nat := hour * 3600 + minute * 60 + (second - leap)
  let date := daysOfDate year month day
  let seconds := date * 86400 + time - offset
  guard (isInCalendar date && isInCalendar (seconds / 86400))
  return ⟨seconds, fraction + leap * 1000000000⟩

end Timestamp

end VolumeAttacher
