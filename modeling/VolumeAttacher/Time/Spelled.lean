import VolumeAttacher.Time.Duration

/-!
# Durations in words

Durations on the command line: one or more groups of a number and a unit, as in `1h 30m` or `2.5s`.
The numbers and everything they are multiplied to have to fit 64 bits. A fraction has to come out at
whole nanoseconds, and from hours on at whole seconds; nanoseconds have no fractions, not even zero
ones. The single digit `0` needs no unit.
-/

namespace VolumeAttacher.Duration

/-- A unit of time. -/
inductive TimeUnit where
  /-- The unit `ns`. -/
  | nanosecond
  /-- The unit `us`. -/
  | microsecond
  /-- The unit `ms`. -/
  | millisecond
  /-- The unit `s`. -/
  | second
  /-- The unit `m`. -/
  | minute
  /-- The unit `h`. -/
  | hour
  /-- The unit `d`. -/
  | day
  /-- The unit `w`. -/
  | week
  /-- The unit `M`: 30.44 days. -/
  | month
  /-- The unit `y`: 365.25 days. -/
  | year
deriving DecidableEq, Repr

namespace TimeUnit

def ofName? : String → Option TimeUnit
  | "nanos" | "nsec" | "ns" => some .nanosecond
  | "usec" | "us" | "µs" => some .microsecond
  | "millis" | "msec" | "ms" => some .millisecond
  | "seconds" | "second" | "secs" | "sec" | "s" => some .second
  | "minutes" | "minute" | "min" | "mins" | "m" => some .minute
  | "hours" | "hour" | "hrs" | "hr" | "h" => some .hour
  | "days" | "day" | "d" => some .day
  | "weeks" | "week" | "wks" | "wk" | "w" => some .week
  | "months" | "month" | "M" => some .month
  | "years" | "year" | "yrs" | "yr" | "y" => some .year
  | _ => none

/-- The length of a unit of at least one second, in seconds, and of a shorter one, in nanoseconds.
-/
def size : TimeUnit → Nat
  | nanosecond => 1
  | microsecond => 1000
  | millisecond => 1000000
  | second => 1
  | minute => 60
  | hour => 3600
  | day => 86400
  | week => 604800
  | month => 2630016
  | year => 31557600

/-- Whether the unit is shorter than a second. -/
def isSubsecond : TimeUnit → Bool
  | nanosecond | microsecond | millisecond => true
  | _ => false

/-- Whether fractions of the unit are taken in nanoseconds and not in seconds. -/
def hasFineFractions : TimeUnit → Bool
  | nanosecond | microsecond | millisecond | second | minute => true
  | _ => false

end TimeUnit

/-- A number with its unit. -/
structure Group where
  whole : Nat
  /-- The digits after the point. -/
  fraction : List Char
  timeUnit : TimeUnit
deriving DecidableEq, Repr

def isUnitLetter (c : Char) : Bool :=
  c.isAlpha || c = 'µ'

def fits64? (n : Nat) : Option Nat :=
  if n < 0x10000000000000000 then some n else none

/-- Splits off digits and the blanks among them, and keeps the digits. -/
def splitSpacedDigits (text : List Char) : List Char × List Char :=
  let inNumber (c : Char) : Bool := c.isDigit || Text.isBlank c
  ((text.takeWhile inNumber).filter Char.isDigit, text.dropWhile inNumber)

def group? (text : List Char) : Option (Group × List Char) := do
  guard (text.head?.any Char.isDigit)
  let (whole, rest) := splitSpacedDigits text
  let whole ← fits64? (Numeral.ofDigits whole)
  let (fraction, rest) ←
    match rest with
    | '.' :: rest =>
        match splitSpacedDigits rest with
        | ([], _) => none
        | split => some split
    | rest => some ([], rest)
  let name := rest.takeWhile isUnitLetter
  let rest := rest.dropWhile isUnitLetter
  let timeUnit ← TimeUnit.ofName? (String.ofList name)
  guard (rest.head?.all fun c => c.isDigit || Text.isBlank c)
  return (⟨whole, fraction, timeUnit⟩, Text.skipBlanks rest)

/-- Reads all groups. The fuel bounds their number; the length of the text suffices. -/
def groups? : Nat → List Char → Option (List Group)
  | _, [] => some []
  | 0, _ => none
  | fuel + 1, text => do
    let (group, rest) ← group? text
    let groups ← groups? fuel rest
    return group :: groups

namespace Group

/-- The whole seconds and the nanoseconds that the whole part stands for. -/
def wholeAmount? (group : Group) : Option (Nat × Nat) := do
  let amount ← fits64? (group.whole * group.timeUnit.size)
  return if group.timeUnit.isSubsecond then (0, amount) else (amount, 0)

/-- The whole seconds and the nanoseconds that the fraction stands for. -/
def fractionAmount? (group : Group) : Option (Nat × Nat) := do
  guard (group.fraction = [] ∨ group.timeUnit ≠ .nanosecond)
  let numerator ← fits64? (Numeral.ofDigits group.fraction)
  let denominator ← fits64? (Nat.pow 10 group.fraction.length)
  let fine := group.timeUnit.hasFineFractions
  let scale :=
    if fine && !group.timeUnit.isSubsecond then group.timeUnit.size * Duration.second
    else group.timeUnit.size
  let scaled ← fits64? (numerator * scale)
  guard (scaled % denominator = 0)
  let amount := scaled / denominator
  return if fine then (0, amount) else (amount, 0)

end Group

/-- Adds seconds and nanoseconds to a duration, if every sum on the way fits 64 bits. -/
def addAmount? (total : Nat) (amount : Nat × Nat) : Option Nat := do
  let nanoseconds ← fits64? (total % second + amount.2)
  let _ ← fits64? (total / second + amount.1 + nanoseconds / second)
  return total + amount.1 * second + amount.2

def ofSpelled? (text : String) : Option Nat := do
  if text = "0" then return 0
  let text := Text.skipBlanks text.toList
  guard (text ≠ [])
  let groups ← groups? text.length text
  groups.foldlM (fun total group => do
    let total ← addAmount? total (← group.wholeAmount?)
    addAmount? total (← group.fractionAmount?)) 0

end VolumeAttacher.Duration
