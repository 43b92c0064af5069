/-!
# Hosts in URIs

The part of a URI that names a host, with an optional port and an optional user in front. A host in
brackets may hold colons; outside of brackets only one colon may come after the user. Percent signs
may stand only in the user and in brackets.
-/

namespace VolumeAttacher.Authority

def allows (c : Char) : Bool :=
  c.isAlphanum || "!$&'()*+,-.:;=@[]_~".toList.contains c

def isEnd (c : Char) : Bool :=
  c == '/' || c == '?' || c == '#'

/-- What has been seen of an authority. -/
structure Scan where
  colons : Nat := 0
  opened : Bool := false
  closed : Bool := false
  percent : Bool := false
  /-- Whether the last character ends the user. -/
  afterUser : Bool := false
deriving DecidableEq, Repr

/-- The greatest number of colons in a row of parts. -/
def mostColons : Nat := 8

namespace Scan

/-- Takes in a character, if it may stand here. -/
def step? (scan : Scan) (c : Char) : Option Scan :=
  let next := { scan with afterUser := false }
  match c with
  | ':' => if scan.colons < mostColons then some { next with colons := scan.colons + 1 } else none
  | '[' => if scan.percent || scan.opened then none else some { next with opened := true }
  | ']' =>
      if !scan.opened || scan.closed then none
      else some { next with closed := true, colons := 0, percent := false }
  | '@' => some { next with colons := 0, percent := false, afterUser := true }
  | '%' => some { next with percent := true }
  | c => if allows c then some next else none

def isComplete (scan : Scan) : Bool :=
  scan.opened == scan.closed && scan.colons ≤ 1 && !scan.afterUser && !scan.percent

end Scan

/-- Splits off the authority that a text begins with, which may be empty, if what stands there can
be one. -/
def split? (text : List Char) : Option (List Char × List Char) :=
  let authority := text.takeWhile fun c => !isEnd c
  if (authority.foldlM Scan.step? {}).any Scan.isComplete then
    some (authority, text.drop authority.length)
  else none

end VolumeAttacher.Authority
