import WildcardDiff.Pattern.Matching
import WildcardDiff.Proofs.Pattern.Frontier

/-!
# Sweeps

A sweep visits the pending positions of one place until none is left. What every single
visit preserves holds when the sweep ends. Two invariants are preserved. The frontier of
the place only ever marks reachable positions, and a run that was visited has passed its
position on. The frontier of the next place only ever marks what some visit sends there,
and what every visit sends is marked. At the end the first frontier marks exactly the
positions that are reachable at the place.
-/

namespace WildcardDiff

/-- The position that a move from a position leads to at the next place. -/
def Move.target? (position : Nat) : Move -> Option Nat
  | .stop => none
  | .advance => some (position + 1)
  | .linger => some position

theorem Move.target?_le {move : Move} {position target : Nat}
    (sent : move.target? position = some target) :
    target ≤ position + 1 := by
  cases move with
  | stop => cases sent
  | advance => exact Nat.le_of_eq (Option.some.inj sent).symm
  | linger =>
      rw [← Option.some.inj sent]
      exact Nat.le_succ position

namespace Matching

/-- The state of a sweep after one more visit, of a position that was taken from the
pending ones. -/
def Sweep.visit (move : Nat -> Move) (state : Sweep) (position : Nat) (rest : List Nat) :
    Sweep :=
  let popped : Frontier := { state.current with pending := rest }
  match move position with
  | .stop => ⟨popped, state.following, position :: state.visited⟩
  | .advance => ⟨popped, state.following.add (position + 1), position :: state.visited⟩
  | .linger =>
      ⟨popped.add (position + 1), state.following.add position, position :: state.visited⟩

theorem sweep_of_drained
    {current : Frontier}
    (drained : current.pending = [])
    (move : Nat -> Move)
    (following : Frontier)
    (visited : List Nat) :
    sweep move current following visited = ⟨current, following, visited⟩ := by
  unfold sweep
  split
  · rfl
  · rename_i pending
    rw [drained] at pending
    cases pending

theorem sweep_of_pending
    {current : Frontier}
    {position : Nat}
    {rest : List Nat}
    (pending : current.pending = position :: rest)
    (move : Nat -> Move)
    (following : Frontier)
    (visited : List Nat) :
    sweep move current following visited =
      let state := Sweep.visit move ⟨current, following, visited⟩ position rest
      sweep move state.current state.following state.visited := by
  conv =>
    lhs
    unfold sweep
  split
  · rename_i drained
    rw [drained] at pending
    cases pending
  · rename_i head tail found
    rw [found] at pending
    cases pending
    cases moved : move position <;> simp [Sweep.visit, moved]

/-- What every visit preserves holds at the end of a sweep, where nothing is pending. -/
theorem sweep_preserves
    {move : Nat -> Move}
    (invariant : Sweep -> Prop)
    (step : ∀ state position rest, state.current.pending = position :: rest ->
      invariant state -> invariant (state.visit move position rest))
    (current following : Frontier)
    (visited : List Nat)
    (start : invariant ⟨current, following, visited⟩) :
    invariant (sweep move current following visited) ∧
      (sweep move current following visited).current.pending = [] := by
  induction bound : current.weight using Nat.strongRecOn
    generalizing current following visited with
  | _ weight inductionHypothesis =>
      subst bound
      cases pending : current.pending with
      | nil =>
          rw [sweep_of_drained pending]
          exact ⟨start, pending⟩
      | cons position rest =>
          rw [sweep_of_pending pending]
          refine inductionHypothesis _ ?_ _ _ _ (step _ position rest pending start) rfl
          have popped := Frontier.weight_pop_lt pending
          simp only [Sweep.visit]
          cases move position with
          | stop => exact popped
          | advance => exact popped
          | linger => exact Nat.lt_of_le_of_lt (Frontier.weight_add_le _ _) popped

/-- What holds of the frontier of a place during a sweep, if `here` are the positions that
are reachable at the place. -/
structure Explores
    (count : Nat)
    (move : Nat -> Move)
    (here : Nat -> Prop)
    (frontier : Frontier) : Prop where
  valid : frontier.Valid count
  /-- Only reachable positions are marked. -/
  sound : ∀ position, frontier.isMarked position = true -> here position
  /-- A reachable position is marked, or a run passes it on. -/
  seeded : ∀ position, here position ->
    frontier.isMarked position = true ∨
      ∃ before, position = before + 1 ∧ before < count ∧ move before = .linger ∧
        here before
  /-- A marked run is still to be visited, or has passed its position on. -/
  closed : ∀ position, position < count -> frontier.isMarked position = true ->
    position ∈ frontier.pending ∨
      (move position = .linger -> frontier.isMarked (position + 1) = true)

/-- What holds of the frontier of the next place during a sweep, if `next` are the
positions that are reachable there. -/
structure Feeds
    (count : Nat)
    (move : Nat -> Move)
    (next : Nat -> Prop)
    (state : Sweep) : Prop where
  valid : state.following.Valid count
  untouched : state.following.Untouched count
  /-- Only reachable positions are marked. -/
  sound : ∀ position, state.following.isMarked position = true -> next position
  /-- A marked position is still to be visited, or its move was made. -/
  sent : ∀ position, position < count -> state.current.isMarked position = true ->
    position ∈ state.current.pending ∨
      ∀ target, (move position).target? position = some target ->
        state.following.isMarked target = true

section

variable
  {count : Nat}
  {move : Nat -> Move}
  {here next : Nat -> Prop}
  {state : Sweep}
  {position : Nat}
  {rest : List Nat}

/-- A frontier whose marked positions are all pending explores its place. -/
theorem Explores.of_untouched
    {frontier : Frontier}
    (valid : frontier.Valid count)
    (untouched : frontier.Untouched count)
    (sound : ∀ position, frontier.isMarked position = true -> here position)
    (seeded : ∀ position, here position ->
      frontier.isMarked position = true ∨
        ∃ before, position = before + 1 ∧ before < count ∧ move before = .linger ∧
          here before) :
    Explores count move here frontier where
  valid := valid
  sound := sound
  seeded := seeded
  closed := fun position inside marked => .inl (untouched position inside marked)

/-- Before the first visit, nothing is marked for the next place and all is to be
visited. -/
theorem Feeds.of_untouched
    {current following : Frontier}
    (untouched : current.Untouched count)
    (valid : following.Valid count)
    (unmarked : ∀ position, following.isMarked position = false)
    (visited : List Nat) :
    Feeds count move next ⟨current, following, visited⟩ where
  valid := valid
  untouched := .of_not_isMarked unmarked
  sound := by
    intro position marked
    rw [unmarked position] at marked
    cases marked
  sent := fun position inside marked => .inl (untouched position inside marked)

/-- The position that is visited next is reachable. -/
theorem Explores.here_of_pending
    {frontier : Frontier}
    (explores : Explores count move here frontier)
    (pending : frontier.pending = position :: rest) :
    position < count ∧ here position := by
  have queued := explores.valid.queued position (by simp [pending])
  exact ⟨queued.1, explores.sound position queued.2⟩

/-- An element that is no run needs no mark at its own place when it is visited. -/
theorem Explores.pop
    {frontier : Frontier}
    (explores : Explores count move here frontier)
    (pending : frontier.pending = position :: rest)
    (moved : move position ≠ .linger) :
    Explores count move here { frontier with pending := rest } where
  valid := explores.valid.pop pending
  sound := explores.sound
  seeded := explores.seeded
  closed := by
    intro other inside marked
    rcases explores.closed other inside marked with waiting | passed
    · rw [pending] at waiting
      rcases List.mem_cons.mp waiting with rfl | waiting
      · exact .inr fun lingers => absurd lingers moved
      · exact .inl waiting
    · exact .inr passed

/-- A run passes its position on when it is visited. -/
theorem Explores.pop_add
    {frontier : Frontier}
    (explores : Explores count move here frontier)
    (pending : frontier.pending = position :: rest)
    (left : here (position + 1)) :
    Explores count move here ({ frontier with pending := rest }.add (position + 1)) := by
  let popped : Frontier := { frontier with pending := rest }
  have valid : popped.Valid count := explores.valid.pop pending
  have inside : position < count := (explores.here_of_pending pending).1
  have kept : ∀ other, frontier.isMarked other = true ->
      (popped.add (position + 1)).isMarked other = true :=
    fun other marked => Frontier.isMarked_add.mpr (.inl marked)
  have passedOn : (popped.add (position + 1)).isMarked (position + 1) = true :=
    Frontier.isMarked_add.mpr (.inr ⟨rfl, by rw [valid.size]; omega⟩)
  refine ⟨valid.add (position + 1), ?_, ?_, ?_⟩
  · intro other marked
    rcases Frontier.isMarked_add.mp marked with marked | ⟨rfl, -⟩
    · exact explores.sound other marked
    · exact left
  · intro other reached
    rcases explores.seeded other reached with marked | passes
    · exact .inl (kept other marked)
    · exact .inr passes
  · intro other within marked
    by_cases before : frontier.isMarked other = true
    · rcases explores.closed other within before with waiting | passed
      · rw [pending] at waiting
        rcases List.mem_cons.mp waiting with rfl | waiting
        · exact .inr fun _ => passedOn
        · exact .inl (Frontier.mem_pending_add.mpr (.inl waiting))
      · exact .inr fun lingers => kept (other + 1) (passed lingers)
    · rcases Frontier.isMarked_add.mp marked with marked | ⟨rfl, -⟩
      · exact absurd marked before
      · refine .inl (Frontier.mem_pending_add.mpr (.inr ⟨rfl, ?_, ?_⟩))
        · simpa [popped] using before
        · rw [valid.size]
          omega

theorem Explores.visit
    (leaves : ∀ position, here position -> move position = .linger -> here (position + 1))
    (pending : state.current.pending = position :: rest)
    (explores : Explores count move here state.current) :
    Explores count move here (state.visit move position rest).current := by
  obtain ⟨-, reached⟩ := explores.here_of_pending pending
  unfold Sweep.visit
  cases moved : move position with
  | stop => exact explores.pop pending (by simp [moved])
  | advance => exact explores.pop pending (by simp [moved])
  | linger => exact explores.pop_add pending (leaves position reached moved)

/-- When nothing is pending, exactly the reachable positions are marked. -/
theorem Explores.isMarked_iff
    {frontier : Frontier}
    (explores : Explores count move here frontier)
    (drained : frontier.pending = [])
    (position : Nat) :
    frontier.isMarked position = true ↔ here position := by
  refine ⟨explores.sound position, fun reached => ?_⟩
  induction position with
  | zero =>
      rcases explores.seeded 0 reached with marked | ⟨before, equal, -⟩
      · exact marked
      · omega
  | succ position inductionHypothesis =>
      rcases explores.seeded (position + 1) reached with marked | passes
      · exact marked
      · obtain ⟨before, equal, inside, lingers, reachedBefore⟩ := passes
        obtain rfl : position = before := by omega
        have marked := inductionHypothesis reachedBefore
        rcases explores.closed position inside marked with waiting | passed
        · rw [drained] at waiting
          cases waiting
        · exact passed lingers

/-- A marked position that no longer waits after a visit did not wait before, or is the
one that was visited. -/
theorem pending_or_settled_of_visit
    (explores : Explores count move here state.current)
    (pending : state.current.pending = position :: rest)
    {other : Nat}
    (inside : other < count)
    (marked : (state.visit move position rest).current.isMarked other = true) :
    other ∈ (state.visit move position rest).current.pending ∨
      state.current.isMarked other = true ∧
        (other = position ∨ other ∉ state.current.pending) := by
  have popped : other ∈ rest ∨ (other = position ∨ other ∉ state.current.pending) := by
    rw [pending, List.mem_cons]
    by_cases same : other = position
    · exact .inr (.inl same)
    · by_cases waiting : other ∈ rest
      · exact .inl waiting
      · exact .inr (.inr (by simp [same, waiting]))
  have valid := explores.valid.pop pending
  unfold Sweep.visit at marked ⊢
  cases moved : move position with
  | stop =>
      simp only [moved] at marked ⊢
      exact popped.imp id fun settled => ⟨marked, settled⟩
  | advance =>
      simp only [moved] at marked ⊢
      exact popped.imp id fun settled => ⟨marked, settled⟩
  | linger =>
      simp only [moved, Frontier.mem_pending_add] at marked ⊢
      by_cases before : state.current.isMarked other = true
      · exact popped.imp .inl fun settled => ⟨before, settled⟩
      · rcases Frontier.isMarked_add.mp marked with marked | ⟨rfl, -⟩
        · exact absurd marked before
        · exact .inl (.inr ⟨rfl, by simpa using before, by rw [valid.size]; omega⟩)

theorem following_visit :
    (state.visit move position rest).following =
      match (move position).target? position with
      | some target => state.following.add target
      | none => state.following := by
  unfold Sweep.visit
  cases move position <;> rfl

/-- What is marked for the next place stays marked. -/
theorem isMarked_following_visit
    {other : Nat}
    (marked : state.following.isMarked other = true) :
    (state.visit move position rest).following.isMarked other = true := by
  rw [following_visit]
  split
  · exact Frontier.isMarked_add.mpr (.inl marked)
  · exact marked

/-- Only the target of the visited position is marked anew for the next place. -/
theorem target_of_isMarked_following_visit
    {other : Nat}
    (marked : (state.visit move position rest).following.isMarked other = true) :
    state.following.isMarked other = true ∨
    (move position).target? position = some other := by
  rw [following_visit] at marked
  split at marked
  · rename_i target found
    rcases Frontier.isMarked_add.mp marked with marked | ⟨rfl, -⟩
    · exact .inl marked
    · exact .inr found
  · exact .inl marked

/-- A visit makes the move of its position. -/
theorem isMarked_target_visit
    (valid : state.following.Valid count)
    (inside : position < count)
    {target : Nat}
    (found : (move position).target? position = some target) :
    (state.visit move position rest).following.isMarked target = true := by
  have bound := Move.target?_le found
  rw [following_visit, found]
  exact Frontier.isMarked_add.mpr (.inr ⟨rfl, by rw [valid.size]; omega⟩)

theorem Feeds.visit
    (arrives : ∀ position target, here position ->
      (move position).target? position = some target -> next target)
    (explores : Explores count move here state.current)
    (pending : state.current.pending = position :: rest)
    (feeds : Feeds count move next state) :
    Feeds count move next (state.visit move position rest) := by
  obtain ⟨inside, reached⟩ := explores.here_of_pending pending
  refine ⟨?_, ?_, ?_, ?_⟩
  · rw [following_visit]
    split
    · exact feeds.valid.add _
    · exact feeds.valid
  · rw [following_visit]
    split
    · exact feeds.untouched.add feeds.valid _
    · exact feeds.untouched
  · intro other marked
    rcases target_of_isMarked_following_visit marked with marked | found
    · exact feeds.sound other marked
    · exact arrives position other reached found
  · intro other within marked
    rcases pending_or_settled_of_visit explores pending within marked
      with waiting | settled
    · exact .inl waiting
    · refine .inr fun target found => ?_
      obtain ⟨before, rfl | settled⟩ := settled
      · exact isMarked_target_visit feeds.valid inside found
      · rcases feeds.sent other within before with waiting | made
        · exact absurd waiting settled
        · exact isMarked_following_visit (made target found)

variable {current following : Frontier} {visited : List Nat}

/-- A sweep stays at the places of its frontiers. -/
theorem place_sweep
    (move : Nat -> Move)
    (current following : Frontier)
    (visited : List Nat) :
    (sweep move current following visited).current.place = current.place ∧
      (sweep move current following visited).following.place = following.place := by
  refine (sweep_preserves
    (fun state =>
      state.current.place = current.place ∧ state.following.place = following.place)
    ?_ current following visited ⟨rfl, rfl⟩).1
  rintro state position rest - ⟨here, next⟩
  unfold Sweep.visit
  cases move position with
  | stop => exact ⟨here, next⟩
  | advance => exact ⟨here, by rw [Frontier.place_add]; exact next⟩
  | linger =>
      exact ⟨by rw [Frontier.place_add]; exact here, by
        rw [Frontier.place_add]; exact next⟩

/-- A sweep explores its place to the end. -/
theorem Explores.sweep
    (leaves : ∀ position, here position -> move position = .linger -> here (position + 1))
    (explores : Explores count move here current)
    (following : Frontier)
    (visited : List Nat) :
    Explores count move here (sweep move current following visited).current ∧
      (Matching.sweep move current following visited).current.pending = [] :=
  sweep_preserves
    (fun state => Explores count move here state.current)
    (fun _ _ _ pending explores => explores.visit leaves pending)
    current following visited explores

/-- A sweep hands on what the reachable positions of its place send to the next place. -/
theorem Feeds.sweep
    (leaves : ∀ position, here position -> move position = .linger -> here (position + 1))
    (arrives : ∀ position target, here position ->
      (move position).target? position = some target -> next target)
    (explores : Explores count move here current)
    (feeds : Feeds count move next ⟨current, following, visited⟩) :
    Feeds count move next (Matching.sweep move current following visited) :=
  (sweep_preserves
    (fun state =>
      Explores count move here state.current ∧ Feeds count move next state)
    (fun _ _ _ pending invariant =>
      ⟨invariant.1.visit leaves pending,
        invariant.2.visit arrives invariant.1 pending⟩)
    current following visited ⟨explores, feeds⟩).1.2

end

end Matching
end WildcardDiff
