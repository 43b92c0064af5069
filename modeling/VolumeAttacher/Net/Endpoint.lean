import VolumeAttacher.Number.Numeral

/-!
# Endpoints

An IP address with a port, as given for a server to listen on. Reading follows the strict textual
forms: octets without leading zeros, groups of at most four hexadecimal digits, at most one `::`,
and an IPv4 address as the last two groups. Writing uses the canonical form: the first longest run
of zero groups is compressed, and a mapped IPv4 address keeps its dots.
-/

namespace VolumeAttacher

/-- An IP address. -/
inductive IpAddress where
  | v4 (octets : List Nat)
  /-- An IPv6 address by its groups, with the number of its scope or zero. -/
  | v6 (groups : List Nat) (scope : Nat)
deriving DecidableEq, Repr

/-- An IP address with a port. -/
structure Endpoint where
  address : IpAddress
  port : Nat
deriving DecidableEq, Repr

namespace Endpoint

def char? (c : Char) : List Char → Option (List Char)
  | first :: rest => if first = c then some rest else none
  | [] => none

/-- Reads all leading decimal digits as a number up to a greatest one. -/
def number? (greatest : Nat) (text : List Char) : Option (Nat × List Char) :=
  match Numeral.splitDigits text with
  | ([], _) => none
  | (digits, rest) =>
      let value := Numeral.ofDigits digits
      if value ≤ greatest then some (value, rest) else none

/-- Reads an octet: no leading zeros, and at most 255. -/
def octet? (text : List Char) : Option (Nat × List Char) :=
  let digits := text.takeWhile Char.isDigit
  if 1 < digits.length ∧ digits.head? = some '0' then none else number? 255 text

def octets? (text : List Char) : Option (List Nat × List Char) := do
  let (a, rest) ← octet? text
  let (b, rest) ← octet? (← char? '.' rest)
  let (c, rest) ← octet? (← char? '.' rest)
  let (d, rest) ← octet? (← char? '.' rest)
  return ([a, b, c, d], rest)

def hexDigit? (c : Char) : Option Nat :=
  if c.isDigit then some (c.toNat - '0'.toNat)
  else if 'a' ≤ c ∧ c ≤ 'f' then some (c.toNat - 'a'.toNat + 10)
  else if 'A' ≤ c ∧ c ≤ 'F' then some (c.toNat - 'A'.toNat + 10)
  else none

/-- Reads a group: one to four hexadecimal digits and no further one. -/
def group? (text : List Char) : Option (Nat × List Char) :=
  let digits := text.takeWhile fun c => (hexDigit? c).isSome
  if digits = [] ∨ 4 < digits.length then none
  else some (digits.foldl (fun value c => value * 16 + (hexDigit? c).getD 0) 0,
    text.drop digits.length)

/-- Reads up to `room` groups with colons between them; the first one has a colon in front of it
unless it `isFirst`. Two groups of room can be taken by an IPv4 address, which ends the list, and
the result tells whether one did. -/
def groups (isFirst : Bool) (text : List Char) : Nat → List Nat × Bool × List Char
  | 0 => ([], false, text)
  | room + 1 =>
      match if isFirst then some text else char? ':' text with
      | none => ([], false, text)
      | some start =>
          match if room = 0 then none else octets? start with
          | some ([a, b, c, d], rest) => ([a * 256 + b, c * 256 + d], true, rest)
          | _ =>
              match group? start with
              | none => ([], false, text)
              | some (group, rest) =>
                  let (others, dotted, rest) := groups false rest room
                  (group :: others, dotted, rest)

def v6Groups? (text : List Char) : Option (List Nat × List Char) :=
  let (front, dotted, rest) := groups true text 8
  if front.length = 8 then some (front, rest)
  else if dotted then none
  else do
    let rest ← char? ':' rest
    let rest ← char? ':' rest
    let (back, _, rest) := groups true rest (7 - front.length)
    return (front ++ List.replicate (8 - front.length - back.length) 0 ++ back, rest)

/-- Reads the port behind an address, up to the end of the text. -/
def port? (text : List Char) : Option Nat := do
  let (port, rest) ← number? 65535 (← char? ':' text)
  if rest = [] then some port else none

def v4? (text : List Char) : Option Endpoint := do
  let (octets, rest) ← octets? text
  return ⟨.v4 octets, ← port? rest⟩

/-- Reads an IPv6 endpoint: the address in brackets, perhaps with a scope. -/
def v6? (text : List Char) : Option Endpoint := do
  let (groups, rest) ← v6Groups? (← char? '[' text)
  let (scope, rest) ←
    match rest with
    | '%' :: rest => number? 0xFFFFFFFF rest
    | rest => some (0, rest)
  let rest ← char? ']' rest
  return ⟨.v6 groups scope, ← port? rest⟩

def ofText? (text : String) : Option Endpoint :=
  v4? text.toList <|> v6? text.toList

def octetsText (octets : List Nat) : String :=
  String.intercalate "." (octets.map toString)

def groupsText (groups : List Nat) : String :=
  String.intercalate ":" (groups.map fun group => String.ofList (Nat.toDigits 16 group))

/-- The length of the run of zeros at the start of a list. -/
def zeroRun (groups : List Nat) : Nat :=
  (groups.takeWhile (· = 0)).length

/-- Where the first longest run of zero groups starts, and its length. -/
def longestZeroRun (groups : List Nat) : Nat × Nat :=
  (List.range groups.length).foldl (fun best start =>
    let length := zeroRun (groups.drop start)
    if best.2 < length then (start, length) else best) (0, 0)

def v6Text (groups : List Nat) : String :=
  match groups with
  | [0, 0, 0, 0, 0, 0xffff, high, low] =>
      "::ffff:" ++ octetsText [high / 256, high % 256, low / 256, low % 256]
  | groups =>
      let (start, length) := longestZeroRun groups
      if length < 2 then groupsText groups
      else groupsText (groups.take start) ++ "::" ++ groupsText (groups.drop (start + length))

def text (endpoint : Endpoint) : String :=
  match endpoint.address with
  | .v4 octets => octetsText octets ++ s!":{endpoint.port}"
  | .v6 groups scope =>
      let scope := if scope = 0 then "" else s!"%{scope}"
      "[" ++ v6Text groups ++ scope ++ s!"]:{endpoint.port}"

end Endpoint

end VolumeAttacher
