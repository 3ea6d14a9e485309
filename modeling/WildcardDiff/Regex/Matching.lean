import WildcardDiff.Regex.Basic

/-!
# Matching by regular expressions

Pieces are matched at all places of a text at once, the last piece first: what the pieces
after one match at the later places settles what it matches with them. This takes a number
of steps proportional to the length of the text for each piece, where trying the choices
one by one may take far more, and it gives the same matches.
-/

namespace WildcardDiff
namespace Regex

/-- The places of the rest of a text: each position with the characters that follow it,
the end of the text last. -/
def places (position : Nat) : Text -> List (Nat × Text)
  | [] => [(position, [])]
  | char :: rest => (position, char :: rest) :: places (position + 1) rest

/-- The matches of a piece of one character, from those of the pieces after it at the same
places. -/
def matchOnes
    (accepts : Char -> Bool)
    (captured : Bool)
    (position : Nat) : Text -> List (Option Match) -> List (Option Match)
  | char :: rest, _ :: later =>
      let found :=
        match later.head?.join with
        | some next =>
            if accepts char then some (next.capture captured ⟨position, position + 1⟩)
            else none
        | none => none
      found :: matchOnes accepts captured (position + 1) rest later
  | _, _ => [none]

/-- Where a run ends at each place, and what the pieces after it match there. -/
def runEnds
    (isLazy : Bool)
    (position : Nat) :
    List (Option Match) -> List (Option (Nat × Match))
  | [] => []
  | next :: later =>
      let ends := runEnds isLazy (position + 1) later
      let here := next.map fun found => (position, found)
      let further := ends.head?.join
      (if isLazy then here.or further else further.or here) :: ends

/-- The matches of a run, from where it ends at each place. -/
def matchRuns (captured : Bool) (position : Nat) :
    List (Option (Nat × Match)) -> List (Option Match)
  | [] => []
  | finish :: later =>
      (finish.map fun found => found.2.capture captured ⟨position, found.1⟩) ::
        matchRuns captured (position + 1) later

/-- The matches of pieces at all places of the rest of a text. -/
def matchAll (ignoreCase : Bool) :
    List Piece -> (position : Nat) -> Text -> List (Option Match)
  | [], position, rest => (places position rest).map fun place => some ⟨place.1, []⟩
  | ⟨term, captured⟩ :: pieces, position, rest =>
      let found := matchAll ignoreCase pieces position rest
      match term with
      | .start =>
          List.zipWith (fun place next => if place.1 = 0 then next else none)
            (places position rest) found
      | .finish =>
          List.zipWith (fun place next => if place.2 = [] then next else none)
            (places position rest) found
      | .one kind => matchOnes (kind.accepts ignoreCase) captured position rest found
      | .run isLazy => matchRuns captured position (runEnds isLazy position found)

/-- The leftmost match among those at the places from a position on, with its position. -/
def leftmost (position : Nat) : List (Option Match) -> Option (Nat × Match)
  | [] => none
  | some found :: _ => some (position, found)
  | none :: later => leftmost (position + 1) later

/-- Search a text for the leftmost match, and give its span. -/
def search (ignoreCase : Bool) (pieces : List Piece) (text : Text) : Option Span :=
  (leftmost 0 (matchAll ignoreCase pieces 0 text)).map fun found =>
    ⟨found.1, found.2.finish⟩

/-- Match the whole of a text, and give the captured texts. -/
def fullMatch
    (ignoreCase : Bool)
    (pieces : List Piece)
    (text : Text) : Option (List Text) :=
  let found := matchAll ignoreCase (pieces ++ [⟨.finish, false⟩]) 0 text
  found.head?.join.map fun found => found.groups.map fun span => span.of text

theorem head?_places (position : Nat) (rest : Text) :
    (places position rest).head? = some (position, rest) := by
  cases rest <;> rfl

theorem findSome?_runLengths_succ
    (isLazy : Bool)
    (available : Nat)
    (choice : Nat -> Option α) :
    (runLengths isLazy (available + 1)).findSome? choice =
      if isLazy then
        (choice 0).or ((runLengths isLazy available).findSome? fun length =>
          choice (length + 1))
      else
        ((runLengths isLazy available).findSome? fun length => choice (length + 1)).or
          (choice 0) := by
  have lengths : List.range (available + 1 + 1) =
      0 :: (List.range (available + 1)).map Nat.succ := List.range_succ_eq_map
  cases isLazy
  · simp only [runLengths, lengths, Bool.false_eq_true, if_false, List.reverse_cons,
      List.findSome?_append, ← List.map_reverse, List.findSome?_map]
    congr 1
    cases chosen : choice 0 <;> simp [chosen]
  · simp only [runLengths, lengths, if_true, List.findSome?_cons, List.findSome?_map]
    cases choice 0 <;> rfl

theorem matchOnes_places
    (ignoreCase : Bool)
    (kind : Class)
    (captured : Bool)
    (pieces : List Piece)
    (position : Nat)
    (rest : Text) :
    matchOnes (kind.accepts ignoreCase) captured position rest
        ((places position rest).map fun place =>
          matchAt ignoreCase pieces place.1 place.2) =
      (places position rest).map fun place =>
        matchAt ignoreCase (⟨.one kind, captured⟩ :: pieces) place.1 place.2 := by
  induction rest generalizing position with
  | nil => simp [places, matchOnes, matchAt]
  | cons char rest step =>
    simp only [places, List.map_cons, matchOnes, step]
    congr 1
    simp only [List.head?_map, head?_places, matchAt, Option.map_some, Option.join_some]
    cases matchAt ignoreCase pieces (position + 1) rest <;> simp

theorem runEnds_places
    (ignoreCase isLazy : Bool)
    (pieces : List Piece)
    (position : Nat)
    (rest : Text) :
    runEnds isLazy position
        ((places position rest).map fun place =>
          matchAt ignoreCase pieces place.1 place.2) =
      (places position rest).map fun place =>
        (runLengths isLazy place.2.length).findSome? fun length =>
          (matchAt ignoreCase pieces (place.1 + length) (place.2.drop length)).map
            fun found =>
            (place.1 + length, found) := by
  induction rest generalizing position with
  | nil => cases isLazy <;> simp [places, runEnds, runLengths]
  | cons char rest step =>
    simp only [places, List.map_cons, runEnds, step, List.head?_map, head?_places,
      Option.map_some, Option.join_some, List.length_cons, findSome?_runLengths_succ,
      Nat.add_zero, List.drop_zero, List.drop_succ_cons, Nat.add_assoc, Nat.add_comm 1]

theorem matchRuns_places
    (ignoreCase isLazy captured : Bool)
    (pieces : List Piece)
    (position : Nat)
    (rest : Text) :
    matchRuns captured position
        ((places position rest).map fun place =>
          (runLengths isLazy place.2.length).findSome? fun length =>
            (matchAt ignoreCase pieces (place.1 + length) (place.2.drop length)).map
              fun found =>
              (place.1 + length, found)) =
      (places position rest).map fun place =>
        matchAt ignoreCase (⟨.run isLazy, captured⟩ :: pieces) place.1 place.2 := by
  induction rest generalizing position with
  | nil =>
    simp only [places, List.map_cons, List.map_nil, matchRuns, matchAt,
      List.map_findSome?, Function.comp_def, Option.map_map]
  | cons char rest step =>
    simp only [places, List.map_cons, matchRuns, step, matchAt, List.map_findSome?,
      Function.comp_def, Option.map_map]

/-- All places are matched as each of them is by itself. -/
theorem matchAll_eq
    (ignoreCase : Bool)
    (pieces : List Piece)
    (position : Nat)
    (rest : Text) :
    matchAll ignoreCase pieces position rest =
      (places position rest).map fun place =>
        matchAt ignoreCase pieces place.1 place.2 := by
  induction pieces with
  | nil => simp only [matchAll, matchAt]
  | cons piece pieces step =>
    obtain ⟨term, captured⟩ := piece
    cases term with
    | start =>
        simp only [matchAll, step, List.zipWith_map_right, List.zipWith_self, matchAt]
    | finish =>
        simp only [matchAll, step, List.zipWith_map_right, List.zipWith_self, matchAt]
    | one kind => simp only [matchAll, step, matchOnes_places]
    | run isLazy => simp only [matchAll, step, runEnds_places, matchRuns_places]

theorem leftmost_map
    (choose : Nat × Text -> Option Match)
    (position : Nat)
    (rest : Text) :
    leftmost position ((places position rest).map choose) =
      (places position rest).findSome? fun place =>
        (choose place).map fun found => (place.1, found) := by
  induction rest generalizing position with
  | nil => cases chosen : choose (position, []) <;> simp [places, leftmost, chosen]
  | cons char rest step =>
    cases chosen : choose
      (position, char :: rest) <;> simp [places, leftmost, chosen, step]

/-- A search takes the first place at which the pieces match. -/
theorem search_eq (ignoreCase : Bool) (pieces : List Piece) (text : Text) :
    search ignoreCase pieces text =
      (places 0 text).findSome? fun place =>
        (matchAt ignoreCase pieces place.1 place.2).map fun found =>
          ⟨place.1, found.finish⟩ := by
  simp only [search, matchAll_eq, leftmost_map, List.map_findSome?, Function.comp_def,
    Option.map_map]

/-- A whole text is matched by the pieces with the end after them. -/
theorem fullMatch_eq (ignoreCase : Bool) (pieces : List Piece) (text : Text) :
    fullMatch ignoreCase pieces text =
      (matchAt ignoreCase (pieces ++ [⟨.finish, false⟩]) 0 text).map fun found =>
        found.groups.map fun span => span.of text := by
  simp only [fullMatch, matchAll_eq, List.head?_map, head?_places, Option.map_some,
    Option.join_some]

end Regex
end WildcardDiff
