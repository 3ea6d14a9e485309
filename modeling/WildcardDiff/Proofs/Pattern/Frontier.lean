import WildcardDiff.Pattern.Frontier

/-!
# Well-formed frontiers

What adding, taking and moving do to the marks and the pending positions of a frontier.
The invariants of a pass are stated in these terms alone, so that no later proof opens
the array of marks.
-/

namespace WildcardDiff
namespace Frontier

theorem isMarked_iff {frontier : Frontier} {position : Nat} :
    frontier.isMarked position = true ↔
      frontier.marks[position]? = some (some frontier.place) := by
  simp [isMarked]

@[simp] theorem isMarked_pop (frontier : Frontier) (rest : List Nat) (position : Nat) :
    { frontier with pending := rest }.isMarked position =
      frontier.isMarked position := rfl

@[simp] theorem place_add (frontier : Frontier) (position : Nat) :
    (frontier.add position).place = frontier.place := by
  unfold add
  split <;> rfl

@[simp] theorem size_marks_add (frontier : Frontier) (position : Nat) :
    (frontier.add position).marks.size = frontier.marks.size := by
  unfold add
  split <;> simp

theorem getElem?_marks_add (frontier : Frontier) (position other : Nat) :
    (frontier.add position).marks[other]? =
      if other = position ∧ position < frontier.marks.size then some (some frontier.place)
      else frontier.marks[other]? := by
  unfold add
  split
  · rename_i marked
    rw [isMarked_iff] at marked
    split
    · rename_i same
      rw [same.1, marked]
    · rfl
  · simp only [Array.getElem?_setIfInBounds]
    by_cases same : position = other
    · subst same
      by_cases inside : position < frontier.marks.size <;> simp [inside]
    · simp [same, Ne.symm same]

/-- Adding a position marks it, if there is such a position, and no other one. -/
theorem isMarked_add {frontier : Frontier} {position other : Nat} :
    (frontier.add position).isMarked other = true ↔
      frontier.isMarked other = true ∨
      other = position ∧ position < frontier.marks.size := by
  rw [isMarked_iff, isMarked_iff, getElem?_marks_add, place_add]
  by_cases added : other = position ∧ position < frontier.marks.size
  · simp [added]
  · simp [added]

/-- A position is queued when it is added for the first time and is not the last one. -/
theorem mem_pending_add {frontier : Frontier} {position other : Nat} :
    other ∈ (frontier.add position).pending ↔
      other ∈ frontier.pending ∨
        other = position ∧ frontier.isMarked position = false ∧
          position + 1 < frontier.marks.size := by
  unfold add
  by_cases marked : frontier.isMarked position = true
  · simp [marked]
  · by_cases inside : position + 1 < frontier.marks.size
    · simp [marked, inside, or_comm]
    · simp [marked, inside]

/-- A frontier of a pattern with a number of elements, as a pass keeps it: the marks are
those of places already reached, and what is pending is marked. -/
structure Valid (count : Nat) (frontier : Frontier) : Prop where
  size : frontier.marks.size = count + 1
  past : ∀ position place : Nat,
    frontier.marks[position]? = some (some place) -> place ≤ frontier.place
  queued : ∀ position ∈ frontier.pending,
    position < count ∧ frontier.isMarked position = true

/-- Every position that is marked, except the last one, is still to be visited. -/
def Untouched (count : Nat) (frontier : Frontier) : Prop :=
  ∀ position, position < count -> frontier.isMarked position = true ->
    position ∈ frontier.pending

namespace Valid

theorem empty (count : Nat) : (Frontier.empty count).Valid count where
  size := by simp [Frontier.empty]
  past := by
    intro position place mark
    simp [Frontier.empty, Array.getElem?_replicate] at mark
  queued := by simp [Frontier.empty]

theorem add
    {frontier : Frontier}
    (valid : frontier.Valid count)
    (position : Nat) :
    (frontier.add position).Valid count where
  size := by rw [size_marks_add, valid.size]
  past := by
    intro other place mark
    rw [getElem?_marks_add] at mark
    rw [place_add]
    split at mark
    · simp only [Option.some.injEq] at mark
      exact Nat.le_of_eq mark.symm
    · exact valid.past other place mark
  queued := by
    intro other pending
    rw [isMarked_add]
    rcases mem_pending_add.mp pending with pending | ⟨rfl, -, inside⟩
    · exact ⟨(valid.queued other pending).1, .inl (valid.queued other pending).2⟩
    · rw [valid.size] at inside
      exact ⟨by omega, .inr ⟨rfl, by rw [valid.size]; omega⟩⟩

theorem pop
    {frontier : Frontier}
    {position : Nat}
    {rest : List Nat}
    (valid : frontier.Valid count)
    (pending : frontier.pending = position :: rest) :
    { frontier with pending := rest }.Valid count where
  size := valid.size
  past := valid.past
  queued := fun other present =>
    valid.queued other (by rw [pending]; exact List.mem_cons_of_mem _ present)

/-- A frontier with nothing left to visit can be used again for a later place. -/
theorem moveTo
    {frontier : Frontier}
    {place : Nat}
    (valid : frontier.Valid count)
    (drained : frontier.pending = [])
    (later : frontier.place ≤ place) :
    (frontier.moveTo place).Valid count where
  size := valid.size
  past := fun position mark found => Nat.le_trans (valid.past position mark found) later
  queued := by simp [Frontier.moveTo, drained]

/-- Marks of earlier places do not count at a later one. -/
theorem not_isMarked_moveTo
    {frontier : Frontier}
    {place : Nat}
    (valid : frontier.Valid count)
    (later : frontier.place < place)
    (position : Nat) :
    (frontier.moveTo place).isMarked position = false := by
  rw [← Bool.not_eq_true, isMarked_iff]
  intro mark
  have bound := valid.past position place mark
  omega

/-- The end is reached exactly if the position after the last element is marked with the
present place: marks of earlier places do not count. -/
theorem reachedEnd_iff {frontier : Frontier} (valid : frontier.Valid count) :
    frontier.reachedEnd = true ↔ frontier.isMarked count = true := by
  have last : frontier.marks.back? = frontier.marks[count]? := by
    simp [Array.back?_eq_getElem?, valid.size]
  rw [isMarked_iff, reachedEnd, last]
  constructor
  · intro reached
    split at reached
    · rename_i place mark
      have bound := valid.past count place mark
      have equal : place = frontier.place := by
        simp only [decide_eq_true_eq] at reached
        omega
      rw [mark, equal]
    · cases reached
  · intro mark
    simp [mark]

end Valid

theorem Untouched.add
    {frontier : Frontier}
    (valid : frontier.Valid count)
    (untouched : frontier.Untouched count)
    (position : Nat) :
    (frontier.add position).Untouched count := by
  intro other inside marked
  rw [mem_pending_add]
  by_cases before : frontier.isMarked other = true
  · exact .inl (untouched other inside before)
  · rcases isMarked_add.mp marked with marked | ⟨rfl, -⟩
    · exact absurd marked before
    · exact .inr ⟨rfl, by simpa using before, by rw [valid.size]; omega⟩

/-- No position is queued twice. -/
theorem Valid.nodup_pending_add
    {frontier : Frontier}
    (valid : frontier.Valid count)
    (nodup : frontier.pending.Nodup)
    (position : Nat) :
    (frontier.add position).pending.Nodup := by
  unfold Frontier.add
  by_cases marked : frontier.isMarked position = true
  · rwa [if_pos marked]
  · rw [if_neg marked]
    by_cases inside : position + 1 < frontier.marks.size
    · simp only [inside, decide_true, if_true]
      exact List.nodup_cons.mpr
        ⟨fun queued => marked (valid.queued position queued).2, nodup⟩
    · simpa [inside] using nodup

/-- A frontier without marks of the present place is untouched. -/
theorem Untouched.of_not_isMarked
    {frontier : Frontier}
    (unmarked : ∀ position, frontier.isMarked position = false) :
    frontier.Untouched count := by
  intro position _ marked
  rw [unmarked position] at marked
  cases marked

theorem not_isMarked_empty (count position : Nat) :
    (Frontier.empty count).isMarked position = false := by
  rw [← Bool.not_eq_true, isMarked_iff]
  simp [Frontier.empty, Array.getElem?_replicate]

end Frontier
end WildcardDiff
