import Mathlib.Data.List.Infix
import Mathlib.Data.Option.Basic
import VolumeAttacher.Http.Route

/-!
# The notation of routes

A grammar of the texts that write routes, apart from how they are read: `Writes` relates a text to
the pieces of the route that it writes. A text is read as a route just if it is a path with no
reserved segment, the grammar gives it pieces and there are not too many names among them; and it is
read as these pieces.
-/

namespace VolumeAttacher.Http.Route

/-- The characters of a name after its first one. A closing brace is doubled. -/
inductive IsName : List Char → Prop where
  | nil : IsName []
  | char {c : Char} {name : List Char} (noBrace : c ≠ '\x7d') (noStar : c ≠ '*')
      (noSlash : c ≠ '/') : IsName name → IsName (c :: name)
  | closing {name : List Char} : IsName name → IsName ('\x7d' :: '\x7d' :: name)

/-- The texts that write the pieces of a route. -/
inductive Writes : List Char → List RoutePiece → Prop where
  | nil : Writes [] []
  | char {c : Char} {text : List Char} {pieces : List RoutePiece} (noOpening : c ≠ '\x7b')
      (noClosing : c ≠ '\x7d') : Writes text pieces → Writes (c :: text) (.char c :: pieces)
  | opening {text : List Char} {pieces : List RoutePiece} :
      Writes text pieces → Writes ('\x7b' :: '\x7b' :: text) (.char '\x7b' :: pieces)
  | closing {text : List Char} {pieces : List RoutePiece} :
      Writes text pieces → Writes ('\x7d' :: '\x7d' :: text) (.char '\x7d' :: pieces)
  /-- A name ends the segment that it stands in. -/
  | segment {first : Char} {name text : List Char} {pieces : List RoutePiece}
      (noOpening : first ≠ '\x7b') (noClosing : first ≠ '\x7d') (noStar : first ≠ '*')
      (isName : IsName name) (ends : text = [] ∨ text.head? = some '/') :
      Writes text pieces → Writes ('\x7b' :: first :: (name ++ '\x7d' :: text)) (.segment :: pieces)
  /-- A name after an asterisk ends the path. -/
  | rest {name : List Char} (nonempty : name ≠ []) (isName : IsName name) :
      Writes ('\x7b' :: '*' :: (name ++ ['\x7d'])) [.rest]

variable {name text left : List Char} {pieces : List RoutePiece} {piece : RoutePiece}

theorem IsName.skipName? (isName : IsName name) (single : left.head? ≠ some '\x7d') :
    skipName? (name ++ '\x7d' :: left) = some left := by
  induction isName with
  | nil =>
      cases left with
      | nil => rfl
      | cons c left =>
          have other : c ≠ '\x7d' := by simpa using single
          simp [Route.skipName?, other]
  | char noBrace noStar noSlash _ ih => simp [Route.skipName?, noBrace, noStar, noSlash, ih]
  | closing _ ih => simpa [Route.skipName?] using ih

theorem isName_of_skipName? (skipped : skipName? text = some left) :
    ∃ name, IsName name ∧ text = name ++ '\x7d' :: left := by
  fun_induction skipName? text with
  | case1 => contradiction
  | case2 text ih =>
      rcases ih skipped with ⟨name, isName, rfl⟩
      exact ⟨_, .closing isName, rfl⟩
  | case3 => exact ⟨[], .nil, by simp_all⟩
  | case4 => simp_all
  | case5 c text noBrace _ other ih =>
      rcases ih skipped with ⟨name, isName, rfl⟩
      push Not at other
      exact ⟨_, .char (by simp_all) other.1 other.2 isName, rfl⟩

theorem IsName.isClosing_append (isName : IsName name) (nonempty : name ≠ []) :
    isClosing (name ++ ['\x7d']) = false := by
  cases isName with
  | nil => contradiction
  | char noBrace => simp [isClosing, noBrace]
  | closing => rfl

theorem capture?_segment {first : Char} (noClosing : first ≠ '\x7d') (noStar : first ≠ '*')
    (isName : IsName name) (ends : text = [] ∨ text.head? = some '/') :
    capture? (first :: (name ++ '\x7d' :: text)) = some (.segment, text) := by
  have single : text.head? ≠ some '\x7d' := by
    rcases ends with rfl | slash
    · exact nofun
    · simp [slash]
  have skipped := isName.skipName? single
  rcases ends with rfl | slash
  · simp only [capture?, skipped]
  · rcases List.head?_eq_some_iff.mp slash with ⟨left, rfl⟩
    simp only [capture?, skipped]

theorem capture?_rest (nonempty : name ≠ []) (isName : IsName name) :
    capture? ('*' :: (name ++ ['\x7d'])) = some (.rest, []) := by
  have single : ([] : List Char).head? ≠ some '\x7d' := nofun
  have skipped := isName.skipName? single
  simp [capture?, isName.isClosing_append nonempty, skipped]

/-- What follows an opening brace, if it is a name that ends where it may end. -/
theorem writes_of_capture? {first : Char} (noOpening : first ≠ '\x7b')
    (captured : capture? (first :: text) = some (piece, left)) (writes : Writes left pieces) :
    Writes ('\x7b' :: first :: text) (piece :: pieces) := by
  unfold capture? at captured
  split at captured
  case h_1 => contradiction
  case h_2 => contradiction
  case h_3 name starred =>
      rcases List.cons.inj starred with ⟨rfl, rfl⟩
      split at captured
      · contradiction
      next notClosing =>
          split at captured
          next skipped =>
              rcases Prod.mk.inj (Option.some.inj captured) with ⟨rfl, rfl⟩
              rcases isName_of_skipName? skipped with ⟨name, isName, rfl⟩
              cases writes
              refine .rest ?_ isName
              rintro rfl
              exact notClosing rfl
          · contradiction
  case h_4 c name noClosing noStar same =>
      rcases List.cons.inj same with ⟨rfl, rfl⟩
      split at captured
      next skipped =>
          rcases Prod.mk.inj (Option.some.inj captured) with ⟨rfl, rfl⟩
          rcases isName_of_skipName? skipped with ⟨name, isName, rfl⟩
          exact .segment noOpening (by simp_all) (by simp_all) isName (.inl rfl) writes
      next left skipped =>
          rcases Prod.mk.inj (Option.some.inj captured) with ⟨rfl, rfl⟩
          rcases isName_of_skipName? skipped with ⟨name, isName, rfl⟩
          exact .segment noOpening (by simp_all) (by simp_all) isName (.inr rfl) writes
      · contradiction

theorem writes_of_pieces? {fuel : Nat} (read : pieces? fuel text = some pieces) :
    Writes text pieces := by
  fun_induction pieces? fuel text generalizing pieces with
  | case1 =>
      cases read
      exact .nil
  | case2 => contradiction
  | case3 fuel text ih =>
      rcases Option.map_eq_some_iff.mp read with ⟨later, readLater, rfl⟩
      exact .opening (ih readLater)
  | case4 fuel text ih =>
      rcases Option.map_eq_some_iff.mp read with ⟨later, readLater, rfl⟩
      exact .closing (ih readLater)
  | case5 => contradiction
  | case6 fuel text noOpening ih =>
      rcases Option.bind_eq_some_iff.mp read with ⟨⟨piece, left⟩, captured, rest⟩
      rcases Option.map_eq_some_iff.mp rest with ⟨later, readLater, rfl⟩
      cases text with
      | nil => contradiction
      | cons first text =>
          exact writes_of_capture? (by simpa using noOpening) captured (ih left readLater)
  | case7 fuel c text noDoubleOpening noDoubleClosing noClosing noOpening ih =>
      rcases Option.map_eq_some_iff.mp read with ⟨later, readLater, rfl⟩
      exact .char (by simpa using noOpening) (by simpa using noClosing) (ih readLater)

theorem pieces?_of_writes (writes : Writes text pieces) {fuel : Nat}
    (enough : text.length ≤ fuel) : pieces? fuel text = some pieces := by
  induction writes generalizing fuel with
  | nil => cases fuel <;> rfl
  | char noOpening noClosing _ ih =>
      rcases fuel with _ | fuel
      · contradiction
      · simp [pieces?, noOpening, noClosing, ih (Nat.le_of_succ_le_succ enough)]
  | opening _ ih | closing _ ih =>
      rcases fuel with _ | fuel
      · contradiction
      · rw [List.length_cons, List.length_cons] at enough
        rw [pieces?, ih (by omega), Option.map_some]
  | segment noOpening noClosing noStar isName ends _ ih =>
      rcases fuel with _ | fuel
      · contradiction
      · have captured := capture?_segment noClosing noStar isName ends
        simp only [List.length_cons, List.length_append] at enough
        simp [pieces?, noOpening, captured, @ih fuel (by omega)]
  | rest nonempty isName =>
      rcases fuel with _ | fuel
      · contradiction
      · have captured := capture?_rest nonempty isName
        have ended : pieces? fuel [] = some [] := by cases fuel <;> rfl
        simp [pieces?, captured, ended]

/-- Characters without braces write themselves. -/
theorem eq_of_writes_literal {path : List Char} (opens : '\x7b' ∉ path) (closes : '\x7d' ∉ path)
    (writes : Writes text (path.map .char)) : text = path := by
  induction path generalizing text with
  | nil =>
      cases writes
      rfl
  | cons c path ih =>
      simp only [List.mem_cons, not_or] at opens closes
      cases writes with
      | char _ _ writes => rw [ih opens.2 closes.2 writes]
      | opening => exact absurd rfl opens.1
      | closing => exact absurd rfl closes.1

/-- A segment that begins with a colon or an asterisk is reserved. -/
def IsReserved (text : List Char) : Prop :=
  ['/', ':'] <:+: text ∨ ['/', '*'] <:+: text

theorem hasReservedSegment_iff (text : List Char) : hasReservedSegment text ↔ IsReserved text := by
  unfold IsReserved
  fun_induction hasReservedSegment text with
  | case1 text | case2 text => simp [List.infix_cons_iff]
  | case3 c text noColon noStar ih =>
      have noColonFirst : ¬ ['/', ':'] <+: c :: text := by
        rintro ⟨left, rfl, rfl⟩
        exact noColon left rfl rfl
      have noStarFirst : ¬ ['/', '*'] <+: c :: text := by
        rintro ⟨left, rfl, rfl⟩
        exact noStar left rfl rfl
      rw [ih, List.infix_cons_iff, List.infix_cons_iff, or_iff_right noColonFirst,
        or_iff_right noStarFirst]
  | case4 => simp

/-- The texts that write a route. -/
structure IsWrittenBy (route : Route) (path : String) : Prop where
  slash : path.toList.head? = some '/'
  notReserved : ¬ IsReserved path.toList
  writes : Writes path.toList route.pieces
  few : route.pieces.count .segment ≤ mostSegments

theorem ofText?_eq_some_iff {path : String} {route : Route} :
    ofText? path = some route ↔ route.IsWrittenBy path := by
  constructor
  · intro read
    simp only [ofText?, Option.bind_eq_bind, Option.bind_eq_some_iff, Option.guard_eq_some',
      Bool.and_eq_true, decide_eq_true_eq, Bool.not_eq_true'] at read
    rcases read with ⟨-, ⟨slash, notReserved⟩, pieces, readPieces, -, few, same⟩
    rcases Option.some.inj same with rfl
    refine ⟨slash, ?_, writes_of_pieces? readPieces, few⟩
    rw [← hasReservedSegment_iff, notReserved]
    exact Bool.false_ne_true
  · rintro ⟨slash, notReserved, writes, few⟩
    have notReserved : hasReservedSegment path.toList = false := by
      rwa [← hasReservedSegment_iff, Bool.not_eq_true] at notReserved
    simp [ofText?, slash, notReserved, pieces?_of_writes writes (Nat.le_refl _), few]

end VolumeAttacher.Http.Route
