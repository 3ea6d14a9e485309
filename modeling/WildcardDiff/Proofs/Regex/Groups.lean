import WildcardDiff.Proofs.Regex.Captures

/-!
# Groups

A match has a text for each captured piece, and the capturing regular expression of a
pattern captures one piece for each wildcard: brackets and parentheses that the pattern
takes literally open no group. So whatever is captured, it is as many texts as the
pattern has wildcards.
-/

namespace WildcardDiff
namespace Regex

/-- Whether a piece is an anchor. -/
def Piece.isAnchor (piece : Piece) : Bool :=
  match piece.term with
  | .start => true
  | .finish => true
  | _ => false

@[simp] theorem groupCount_nil : groupCount [] = 0 := rfl

@[simp] theorem groupCount_cons (piece : Piece) (pieces : List Piece) :
    groupCount (piece :: pieces) = groupCount pieces + piece.captured.toNat := by
  unfold groupCount
  rw [List.countP_cons]
  cases piece.captured <;> rfl

@[simp] theorem groupCount_append (front back : List Piece) :
    groupCount (front ++ back) = groupCount front + groupCount back :=
  List.countP_append

@[simp] theorem length_groups_capture (captured : Bool) (span : Span) (found : Match) :
    (found.capture captured span).groups.length =
      found.groups.length + captured.toNat := by
  cases captured <;> rfl

section

variable {ignoreCase : Bool} {pieces : List Piece}

/-- A match of pieces has a group for each of them that is captured. An anchor would
leave no group, so none is captured. -/
theorem length_groups_of_matchAt
    {position : Nat}
    {rest : Text}
    {found : Match}
    (silent : ∀ piece ∈ pieces, piece.isAnchor = true → piece.captured = false)
    (matched : matchAt ignoreCase pieces position rest = some found) :
    found.groups.length = groupCount pieces := by
  induction pieces generalizing position rest found with
  | nil =>
      rw [matchAt] at matched
      cases matched
      rfl
  | cons piece pieces inductionHypothesis =>
      obtain ⟨term, captured⟩ := piece
      rw [List.forall_mem_cons] at silent
      obtain ⟨here, silent⟩ := silent
      rw [groupCount_cons]
      cases term with
      | start =>
          rw [matchAt, Option.ite_none_right_eq_some] at matched
          rw [inductionHypothesis silent matched.2, here rfl, Bool.toNat_false,
            Nat.add_zero]
      | finish =>
          rw [matchAt, Option.ite_none_right_eq_some] at matched
          rw [inductionHypothesis silent matched.2, here rfl, Bool.toNat_false,
            Nat.add_zero]
      | one kind =>
          obtain ⟨char, left, later, rfl, -, following, rfl⟩ := matchAt_one matched
          rw [length_groups_capture, inductionHypothesis silent following]
      | run isLazy =>
          rw [matchAt] at matched
          obtain ⟨length, -, works⟩ := List.exists_of_findSome?_eq_some matched
          obtain ⟨later, following, rfl⟩ := Option.map_eq_some_iff.mp works
          rw [length_groups_capture, inductionHypothesis silent following]

theorem length_of_fullMatch
    {text : Text}
    {groups : List Text}
    (silent : ∀ piece ∈ pieces, piece.isAnchor = true → piece.captured = false)
    (matched : fullMatch ignoreCase pieces text = some groups) :
    groups.length = groupCount pieces := by
  rw [fullMatch_eq, Option.map_eq_some_iff] at matched
  obtain ⟨found, matched, rfl⟩ := matched
  have closed : ∀ piece ∈ pieces ++ [⟨.finish, false⟩],
      piece.isAnchor = true → piece.captured = false := by
    rw [List.forall_mem_append, List.forall_mem_singleton]
    exact ⟨silent, fun _ => rfl⟩
  rw [List.length_map, length_groups_of_matchAt closed matched]
  simp

end

end Regex

namespace Construct

/-- A construct has as many wildcards as its piece has groups. -/
theorem countWildcards_events (construct : Construct) :
    Event.countWildcards construct.events = (construct.piece true).captured.toNat := by
  cases construct with
  | set choices =>
      have silent : (choices.map Choice.event).countP Event.isWildcard = 0 := by
        rw [List.countP_eq_zero, List.forall_mem_map]
        intro choice _
        cases choice <;> simp [Choice.event, Event.isWildcard]
      simp [Event.countWildcards, events, piece, Event.isWildcard,
        List.countP_cons, silent]
  | _ => rfl

theorem groupCount_pieces (constructs : List Construct) :
    Regex.groupCount (constructs.map (piece true)) =
      Event.countWildcards (constructs.flatMap events) := by
  induction constructs with
  | nil => rfl
  | cons construct constructs inductionHypothesis =>
      rw [List.map_cons, Regex.groupCount_cons, inductionHypothesis, List.flatMap_cons,
        ← countWildcards_events, Nat.add_comm]
      exact List.countP_append.symm

theorem not_isAnchor_piece (construct : Construct) (capturing : Bool) :
    (construct.piece capturing).isAnchor = false := by
  cases construct <;> rfl

end Construct

namespace Pattern

/-- The capturing regular expression of a pattern has one group for each wildcard, and
its anchors are in none. -/
theorem groupCount_of_compileRegex?
    {pattern : Pattern}
    {pieces : List Regex.Piece}
    (compiled : pattern.compileRegex? true = some pieces) :
    Regex.groupCount pieces = pattern.wildcardCount ∧
      ∀ piece ∈ pieces, piece.isAnchor = true → piece.captured = false := by
  obtain ⟨constructs, wellFormed, events⟩ := pattern.exists_constructs
  rw [compileRegex?_capturing wellFormed events] at compiled
  obtain rfl := Option.some.inj compiled
  have whole : (Regex.Frame.whole constructs).pieces true =
      ⟨.start, false⟩ ::
        (constructs.map (Construct.piece true) ++ [⟨.finish, false⟩]) := rfl
  rw [whole]
  constructor
  · rw [wildcardCount, events, ← Construct.groupCount_pieces]
    simp
  · rw [List.forall_mem_cons, List.forall_mem_append, List.forall_mem_singleton,
      List.forall_mem_map]
    refine ⟨fun _ => rfl, fun construct _ anchor => ?_, fun _ => rfl⟩
    exact absurd anchor (by simp [construct.not_isAnchor_piece])

/-- What is captured of a line is a text for each wildcard. -/
theorem length_of_extract
    {pattern : Pattern}
    {line : Text}
    {groups : List Text}
    (extracted : pattern.extract line = .captured groups) :
    groups.length = pattern.wildcardCount := by
  unfold extract at extracted
  split at extracted
  · cases extracted
  · rename_i pieces compiled
    obtain ⟨count, silent⟩ := groupCount_of_compileRegex? compiled
    split at extracted
    · rename_i found matched
      obtain rfl := Extraction.captured.inj extracted
      rw [Regex.length_of_fullMatch silent matched, count]
    · cases extracted

end Pattern
end WildcardDiff
