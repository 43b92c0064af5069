import VolumeAttacher.Text.Blank

/-!
# Routes

A route is a pattern of paths, written as a path whose segments may end in a name in braces. Such a
name matches the rest of a segment, which must not be empty where the path ends with it. A name
after an asterisk, which has to stand at the end, matches all the rest of a path, which must not be
empty. Braces that are doubled stand for themselves. `Route.ofText?` tells which texts write a route
at all.
-/

namespace VolumeAttacher.Http

/-- What a piece of a route matches. -/
inductive RoutePiece where
  | char (c : Char)
  | segment
  /-- The nonempty rest of a path. -/
  | rest
deriving DecidableEq, Repr

/-- A route by its pieces. -/
structure Route where
  pieces : List RoutePiece
deriving DecidableEq, Repr

namespace Route

/-- Reads a name up to its closing brace, which is not doubled. The answer is the rest. -/
def skipName? : List Char → Option (List Char)
  | [] => none
  | '\x7d' :: '\x7d' :: rest => skipName? rest
  | '\x7d' :: rest => some rest
  | c :: rest => if c = '*' ∨ c = '/' then none else skipName? rest

/-- Whether a text begins with a closing brace that is not doubled. -/
def isClosing : List Char → Bool
  | '\x7d' :: '\x7d' :: _ => false
  | '\x7d' :: _ => true
  | _ => false

/-- Reads what follows an opening brace: the piece, and what follows the closing brace. The first
character of a name may be any but a closing brace. -/
def capture? (text : List Char) : Option (RoutePiece × List Char) :=
  match text with
  | [] | '\x7d' :: _ => none
  | '*' :: name =>
      if isClosing name then none
      else if skipName? name = some [] then some (.rest, [])
      else none
  | _ :: name =>
      match skipName? name with
      | some [] => some (.segment, [])
      | some ('/' :: rest) => some (.segment, '/' :: rest)
      | _ => none

/-- Reads the pieces of a route. The fuel bounds their number; the length of the text suffices. -/
def pieces? : Nat → List Char → Option (List RoutePiece)
  | _, [] => some []
  | 0, _ => none
  | fuel + 1, '\x7b' :: '\x7b' :: rest => (pieces? fuel rest).map (.char '\x7b' :: ·)
  | fuel + 1, '\x7d' :: '\x7d' :: rest => (pieces? fuel rest).map (.char '\x7d' :: ·)
  | _ + 1, '\x7d' :: _ => none
  | fuel + 1, '\x7b' :: rest =>
      (capture? rest).bind fun (piece, rest) => (pieces? fuel rest).map (piece :: ·)
  | fuel + 1, c :: rest => (pieces? fuel rest).map (.char c :: ·)

/-- Whether a segment of a path starts with a colon or an asterisk. -/
def hasReservedSegment : List Char → Bool
  | '/' :: ':' :: _ | '/' :: '*' :: _ => true
  | _ :: rest => hasReservedSegment rest
  | [] => false

/-- The greatest number of names in a route that stand for segments. -/
def mostSegments : Nat := 25

/-- The route that a text writes: it starts with a slash, no segment starts with a colon or an
asterisk, its braces are well formed, and there are not too many of them. -/
def ofText? (text : String) : Option Route := do
  let chars := text.toList
  guard (chars.head? = some '/' && !hasReservedSegment chars)
  let pieces ← pieces? chars.length chars
  guard (pieces.count .segment ≤ mostSegments)
  return ⟨pieces⟩

def literal (path : String) : Route :=
  ⟨path.toList.map .char⟩

def matchPieces : List RoutePiece → List Char → Bool
  | [], path => path.isEmpty
  | .char c :: pieces, first :: path => c = first && matchPieces pieces path
  | .segment :: pieces, path =>
      !path.isEmpty && matchPieces pieces (path.dropWhile (· ≠ '/'))
  | .rest :: _, path => !path.isEmpty
  | .char _ :: _, [] => false

def accepts (route : Route) (path : String) : Bool :=
  matchPieces route.pieces path.toList

end Route

end VolumeAttacher.Http
