import VolumeAttacher.Net.Authority

/-!
# URIs

The forms that a URI of a request takes: a path with an optional query, an authority alone, both
with a scheme in front, or an asterisk. A fragment is dropped. Characters are taken as they stand,
and beyond ASCII all are allowed.
-/

namespace VolumeAttacher

/-- The path and the query of a URI. -/
structure UriTarget where
  path : String
  /-- What comes after the question mark, if there is one. -/
  query : Option String
deriving DecidableEq, Repr

namespace UriTarget

def allowsInPath (c : Char) : Bool :=
  '!' ≤ c && c ≠ '<' && c ≠ '>' && c.val ≠ 0x60 && c.val ≠ 0x7f

def allowsInQuery (c : Char) : Bool :=
  '!' ≤ c && c ≠ '"' && c ≠ '<' && c ≠ '>' && c.val ≠ 0x7f

def ofChars? (text : List Char) : Option UriTarget := do
  let text := text.takeWhile (· ≠ '#')
  let path := text.takeWhile (· ≠ '?')
  guard (path.all allowsInPath)
  match text.drop path.length with
  | [] => return ⟨String.ofList path, none⟩
  | _ :: query =>
      guard (query.all allowsInQuery)
      return ⟨String.ofList path, some (String.ofList query)⟩

def ofText? (text : String) : Option UriTarget :=
  ofChars? text.toList

/-- The parameters in the query, without empty ones. -/
def parameters (target : UriTarget) : List String :=
  ((target.query.getD "").splitOn "&").filter (!·.isEmpty)

end UriTarget

/-- A URI. -/
inductive Uri where
  | asterisk
  | origin (target : UriTarget)
  | authority (authority : String)
  | absolute (scheme authority : String) (target : UriTarget)
deriving DecidableEq, Repr

namespace Uri

def allowsInScheme (c : Char) : Bool :=
  c.isAlphanum || c = '+' || c = '-' || c = '.' || c = '~'

/-- Splits off a scheme and the colon and slashes that follow it, if a text begins with these. -/
def splitScheme? (text : List Char) : Option (List Char × List Char) :=
  let scheme := text.takeWhile allowsInScheme
  match text.drop scheme.length with
  | ':' :: '/' :: '/' :: rest => some (scheme, rest)
  | _ => none

/-- The greatest length of a scheme. -/
def longestScheme : Nat := 64

/-- The greatest length of a URI in bytes. -/
def greatestSize : Nat := 65534

/-- Reads a URI that does not start with a slash. -/
def ofUnrooted? (text : List Char) : Option Uri := do
  match splitScheme? text with
  | some (scheme, rest) =>
      let (host, rest) ← Authority.split? rest
      guard (scheme.length ≤ longestScheme && !host.isEmpty)
      return .absolute (String.ofList scheme) (String.ofList host) (← UriTarget.ofChars? rest)
  | none =>
      let (host, rest) ← Authority.split? text
      guard (!host.isEmpty && rest.isEmpty)
      return .authority (String.ofList host)

def ofText? (text : String) : Option Uri := do
  guard (text.utf8ByteSize ≤ greatestSize)
  match text.toList with
  | ['*'] => return .asterisk
  | '/' :: rest => return .origin (← UriTarget.ofChars? ('/' :: rest))
  | chars => ofUnrooted? chars

/-- The path that a URI leads to. It is the root if a scheme is given and no path, and nothing if
there is an authority alone. -/
def path : Uri → String
  | asterisk => "*"
  | origin target => target.path
  | authority _ => ""
  | absolute _ _ target => if target.path.isEmpty then "/" else target.path

end Uri

end VolumeAttacher
