/-!
# Frontiers

The pattern positions that are reachable at one place of a text. Every position carries
the last place at which it was added, so that it is queued at most once per place; the
position after the last element is marked but never queued. A frontier is used again for
later places without clearing its marks.
-/

namespace WildcardDiff

/-- The pattern positions reachable at a place of a text. -/
structure Frontier where
  /-- The last place at which each pattern position was added. -/
  marks : Array (Option Nat)
  /-- The positions that are still to be visited, the next one first. -/
  pending : List Nat
  /-- The place of the text. -/
  place : Nat

namespace Frontier

/-- The frontier of a pattern with a number of elements, before anything is added. -/
def empty (elementCount : Nat) : Frontier :=
  ⟨Array.replicate (elementCount + 1) none, [], 0⟩

/-- Whether a position was added at the present place. -/
def isMarked (frontier : Frontier) (position : Nat) : Bool :=
  frontier.marks[position]? = some (some frontier.place)

/-- Add a position, unless it was added at this place before. -/
def add (frontier : Frontier) (position : Nat) : Frontier :=
  if frontier.isMarked position then
    frontier
  else
    let isQueued : Bool := position + 1 < frontier.marks.size
    { frontier with
      pending := if isQueued then position :: frontier.pending else frontier.pending
      marks := frontier.marks.setIfInBounds position (some frontier.place) }

/-- The frontier at another place of the text. -/
def moveTo (frontier : Frontier) (place : Nat) : Frontier :=
  { frontier with place }

/-- Whether the position after the last element is marked with this place or a later
one. -/
def reachedEnd (frontier : Frontier) : Bool :=
  match frontier.marks.back? with
  | some (some place) => frontier.place ≤ place
  | _ => false

/-- The number of positions that are not marked at the present place. -/
def unmarked (frontier : Frontier) : Nat :=
  frontier.marks.countP fun mark => mark ≠ some frontier.place

/-- A bound on the visits that are left: each unmarked position may be marked and queued
once. -/
def weight (frontier : Frontier) : Nat :=
  2 * frontier.unmarked + frontier.pending.length

theorem weight_add_le (frontier : Frontier) (position : Nat) :
    (frontier.add position).weight ≤ frontier.weight := by
  unfold add
  split
  · exact Nat.le_refl _
  · rename_i fresh
    by_cases inside : position < frontier.marks.size
    · have other : frontier.marks[position] ≠ some frontier.place := by
        simpa [isMarked, Array.getElem?_eq_getElem inside] using fresh
      have positive : 0 < frontier.marks.countP fun mark => mark ≠ some frontier.place :=
        Array.countP_pos_iff.mpr
          ⟨frontier.marks[position], Array.getElem_mem inside, by simpa using other⟩
      have queued :
          (if decide (position + 1 < frontier.marks.size) = true then
            position :: frontier.pending
            else frontier.pending).length ≤ frontier.pending.length + 1 := by
        split <;> simp
      simp only [weight, unmarked, Array.setIfInBounds, inside, dif_pos, Array.countP_set,
        other, ne_eq, not_false_eq_true, decide_true, if_true, not_true_eq_false,
        decide_false, Bool.false_eq_true, if_false] at positive ⊢
      omega
    · have outside : ¬position + 1 < frontier.marks.size := by omega
      simp [weight, unmarked, Array.setIfInBounds, inside, outside]

/-- Taking the next pending position leaves less to visit. -/
theorem weight_pop_lt
    {frontier : Frontier}
    {position : Nat}
    {rest : List Nat}
    (pending : frontier.pending = position :: rest) :
    { frontier with pending := rest }.weight < frontier.weight := by
  simp [weight, unmarked, pending]

end Frontier
end WildcardDiff
