import WildcardDiff.Pattern.Basic
import WildcardDiff.Proofs.Pattern.Sweep
import Mathlib.Data.List.ProdSigma
import Mathlib.Data.List.Perm.Subperm

/-!
# Visits of a pass

A pass is followed from stage to stage. At each stage it either visits a pending
position, or, when none is left, hands the frontier of the next place on and uses the
other one again. What holds at every stage says how much work the pass does: a position
that was visited at a place is marked and not pending there, so it is never queued again
before the next place, and nothing is pending in the frontier that is used again.
-/

namespace WildcardDiff
namespace Matching

/-- Where a pass stands. -/
structure Stage (α : Type) where
  /-- The symbols from the place on. -/
  rest : List α
  place : Nat
  current : Frontier
  following : Frontier
  visited : List (Nat × Nat)

/-- The move of each position at the first of the symbols that are left, or at the end. -/
def moveOf (takes : α → Element → Bool) (elements : Array Element) : List α → Nat → Move
  | [] => moveAt elements Element.moveAtEnd
  | symbol :: _ => moveAt elements (Element.move (takes symbol))

namespace Stage

/-- The stage at which the visits of a place begin. -/
def opening
    (rest : List α)
    (place : Nat)
    (current following : Frontier)
    (visited : List (Nat × Nat)) : Stage α :=
  match rest with
  | [] => ⟨[], place, current, following, visited⟩
  | symbol :: rest =>
      ⟨symbol :: rest, place, current.moveTo place, following.moveTo (place + 1), visited⟩

variable (takes : α → Element → Bool) (elements : Array Element)

/-- The stage after the visit of a position, which is taken from the pending ones. -/
def visit (stage : Stage α) (position : Nat) (others : List Nat) : Stage α :=
  let state := Sweep.visit (moveOf takes elements stage.rest)
    ⟨stage.current, stage.following, []⟩ position others
  ⟨stage.rest, stage.place, state.current, state.following,
    (position, stage.place) :: stage.visited⟩

/-- What the remaining visits of the place come to. -/
def swept (stage : Stage α) : Sweep :=
  sweep (moveOf takes elements stage.rest) stage.current stage.following []

/-- How the pass ends from a stage on. -/
def outcome (stage : Stage α) : Run :=
  let swept := stage.swept takes elements
  let visited := swept.visited.map (·, stage.place) ++ stage.visited
  match stage.rest with
  | [] => ⟨swept.current.reachedEnd, visited⟩
  | _ :: rest =>
      if swept.following.pending.isEmpty && !rest.isEmpty then ⟨false, visited⟩
      else runFrom takes elements
        (stage.place + 1) swept.following swept.current visited rest

end Stage

/-- The stages that occur in a pass. -/
inductive Occurs
    (takes : α → Element → Bool)
    (elements : List Element)
    (symbols : List α) :
    Stage α → Prop
  | start :
      Occurs takes elements symbols
        (.opening symbols 0 ((Frontier.empty elements.length).add 0)
          (Frontier.empty elements.length) [])
  | visit {stage : Stage α} {position : Nat} {others : List Nat} :
      Occurs takes elements symbols stage → stage.current.pending = position :: others →
      Occurs takes elements symbols (stage.visit takes elements.toArray position others)
  | swap {stage : Stage α} {symbol : α} {rest : List α} :
      Occurs takes elements symbols stage → stage.current.pending = [] →
      stage.rest = symbol :: rest →
      (stage.following.pending.isEmpty && !rest.isEmpty) = false →
      Occurs takes elements symbols
        (.opening rest (stage.place + 1) stage.following stage.current stage.visited)

/-! ## From stage to stage -/

section

variable {takes : α → Element → Bool} {elements : List Element} {symbols : List α}

/-- A sweep adds its visits in front of those before it. -/
theorem sweep_visited
    (move : Nat → Move)
    (current following : Frontier)
    (visited earlier : List Nat) :
    sweep move current following (visited ++ earlier) =
      let swept := sweep move current following visited
      ⟨swept.current, swept.following, swept.visited ++ earlier⟩ := by
  fun_induction sweep move current following visited with
  | case1 current following visited drained => exact sweep_of_drained drained move _ _
  | case2 current following visited position rest pending popped moved inductionHypothesis
  | case3 current following visited position rest pending popped moved inductionHypothesis
  | case4 current following visited position rest pending popped moved
      inductionHypothesis =>
      rw [sweep_of_pending pending]
      simp only [Sweep.visit, moved]
      exact inductionHypothesis

theorem outcome_opening
    (rest : List α)
    (place : Nat)
    (current following : Frontier)
    (visited : List (Nat × Nat)) :
    (Stage.opening rest place current following visited).outcome takes elements.toArray =
      runFrom takes elements.toArray place current following visited rest := by
  cases rest <;> rfl

theorem swept_visit
    {stage : Stage α}
    {position : Nat}
    {others : List Nat}
    (pending : stage.current.pending = position :: others) :
    stage.swept takes elements.toArray =
      let later := (stage.visit takes elements.toArray position others).swept takes
        elements.toArray
      ⟨later.current, later.following, later.visited ++ [position]⟩ := by
  have visited : (Sweep.visit (moveOf takes elements.toArray stage.rest)
      ⟨stage.current, stage.following, []⟩ position others).visited =
        [] ++ [position] := by
    unfold Sweep.visit
    cases moveOf takes elements.toArray stage.rest position <;> rfl
  unfold Stage.swept
  rw [sweep_of_pending pending]
  simp only [visited]
  rw [sweep_visited]
  rfl

/-- A pass ends in the same way from every stage that occurs in it. -/
theorem Occurs.outcome_eq
    {stage : Stage α}
    (occurs : Occurs takes elements symbols stage) :
    stage.outcome takes elements.toArray = run takes elements symbols := by
  induction occurs with
  | start => exact outcome_opening _ _ _ _ _
  | @visit stage position others _ pending inductionHypothesis =>
      rw [← inductionHypothesis]
      unfold Stage.outcome
      rw [swept_visit pending]
      simp [Stage.visit]
  | @swap stage symbol rest _ drained more alive inductionHypothesis =>
      have done : stage.swept takes elements.toArray =
          ⟨stage.current, stage.following, []⟩ :=
        sweep_of_drained drained _ _ _
      rw [← inductionHypothesis, outcome_opening]
      unfold Stage.outcome
      rw [done, more]
      simp [alive]

/-! ## What holds at every stage -/

/-- What holds at every stage of a pass over a number of symbols. -/
structure Tidy (count total : Nat) (stage : Stage α) : Prop where
  total_eq : stage.place + stage.rest.length = total
  current_valid : stage.current.Valid count
  following_valid : stage.following.Valid count
  place_eq : stage.current.place = stage.place
  /-- The other frontier is one place ahead, or is not used any more. -/
  following_place : stage.rest = [] ∨ stage.following.place = stage.place + 1
  current_nodup : stage.current.pending.Nodup
  following_nodup : stage.following.pending.Nodup
  visited_nodup : stage.visited.Nodup
  within : ∀ visit ∈ stage.visited, visit.1 < count ∧ visit.2 ≤ stage.place
  /-- A position that was visited at the place stays marked, and is not pending again. -/
  settled : ∀ position, (position, stage.place) ∈ stage.visited →
    stage.current.isMarked position = true ∧ position ∉ stage.current.pending

/-- A place begins tidily if nothing is pending in the frontier that is used again, and
all visits were made at earlier places. -/
theorem Tidy.opening
    {rest : List α}
    {place count total : Nat}
    {current following : Frontier}
    {visited : List (Nat × Nat)}
    (total_eq : place + rest.length = total)
    (current_valid : current.Valid count)
    (place_eq : current.place = place)
    (current_nodup : current.pending.Nodup)
    (following_valid : following.Valid count)
    (drained : following.pending = [])
    (earlier : following.place ≤ place)
    (visited_nodup : visited.Nodup)
    (within : ∀ visit ∈ visited, visit.1 < count ∧ visit.2 < place) :
    Tidy count total (.opening rest place current following visited) := by
  have following_nodup : following.pending.Nodup := by
    rw [drained]
    exact List.nodup_nil
  have notYet : ∀ position, (position, place) ∉ visited := fun position present =>
    Nat.lt_irrefl place (within _ present).2
  have bounds : ∀ visit ∈ visited, visit.1 < count ∧ visit.2 ≤ place :=
      fun visit present =>
    ⟨(within visit present).1, Nat.le_of_lt (within visit present).2⟩
  cases rest with
  | nil =>
      exact ⟨total_eq, current_valid, following_valid, place_eq, .inl rfl, current_nodup,
        following_nodup, visited_nodup, bounds, fun position present =>
          absurd present (notYet position)⟩
  | cons symbol rest =>
      have same : current.moveTo place = current := by
        rw [← place_eq]
        rfl
      simp only [Stage.opening, same]
      exact ⟨total_eq, current_valid,
        following_valid.moveTo drained (Nat.le_succ_of_le earlier), place_eq, .inr rfl,
        current_nodup, following_nodup, visited_nodup, bounds, fun position present =>
          absurd present (notYet position)⟩

/-- The frontier of the place after a visit: more is marked, and what was pending beside
the visited position still is. Only the position after it may be queued anew. -/
theorem Sweep.current_visit
    (move : Nat → Move)
    {state : Sweep}
    {count position : Nat}
    {others : List Nat}
    (valid : state.current.Valid count)
    (nodup : state.current.pending.Nodup)
    (pending : state.current.pending = position :: others) :
    let after := (state.visit move position others).current
    after.Valid count ∧ after.place = state.current.place ∧ after.pending.Nodup ∧
      (∀ other, state.current.isMarked other = true →
        after.isMarked other = true ∧ (other ∈ after.pending → other ∈ others)) := by
  have popped := valid.pop pending
  have poppedNodup : others.Nodup := by
    rw [pending] at nodup
    exact nodup.of_cons
  unfold Sweep.visit
  cases move position with
  | stop => exact ⟨popped, rfl, poppedNodup, fun other marked => ⟨marked, id⟩⟩
  | advance => exact ⟨popped, rfl, poppedNodup, fun other marked => ⟨marked, id⟩⟩
  | linger =>
      refine ⟨popped.add _, Frontier.place_add _ _,
        popped.nodup_pending_add poppedNodup _, ?_⟩
      intro other marked
      refine ⟨Frontier.isMarked_add.mpr (.inl marked), fun queued => ?_⟩
      rcases Frontier.mem_pending_add.mp queued with queued | ⟨rfl, fresh, -⟩
      · exact queued
      · rw [Frontier.isMarked_pop, marked] at fresh
        cases fresh

theorem Sweep.following_visit
    (move : Nat → Move)
    {state : Sweep}
    {count position : Nat}
    {others : List Nat}
    (valid : state.following.Valid count)
    (nodup : state.following.pending.Nodup) :
    let after := (state.visit move position others).following
    after.Valid count ∧ after.place = state.following.place ∧ after.pending.Nodup := by
  unfold Sweep.visit
  cases move position with
  | stop => exact ⟨valid, rfl, nodup⟩
  | advance =>
      exact ⟨valid.add _, Frontier.place_add _ _, valid.nodup_pending_add nodup _⟩
  | linger =>
      exact ⟨valid.add _, Frontier.place_add _ _, valid.nodup_pending_add nodup _⟩

theorem Tidy.visit
    {count total position : Nat}
    {others : List Nat}
    {stage : Stage α}
    (tidy : Tidy count total stage)
    (pending : stage.current.pending = position :: others)
    (takes : α → Element → Bool)
    (elements : Array Element) :
    Tidy count total (stage.visit takes elements position others) := by
  let move := moveOf takes elements stage.rest
  have isPending : position ∈ stage.current.pending := by
    rw [pending]
    exact List.mem_cons_self
  obtain ⟨inside, marked⟩ := tidy.current_valid.queued position isPending
  have notBelow : position ∉ others := by
    have nodup := tidy.current_nodup
    rw [pending] at nodup
    exact (List.nodup_cons.mp nodup).1
  obtain ⟨valid, place, nodup, kept⟩ :=
    @Sweep.current_visit move ⟨stage.current, stage.following, []⟩ count position others
      tidy.current_valid tidy.current_nodup pending
  obtain ⟨nextValid, nextPlace, nextNodup⟩ :=
    @Sweep.following_visit move ⟨stage.current, stage.following, []⟩ count position others
      tidy.following_valid tidy.following_nodup
  refine ⟨tidy.total_eq, valid, nextValid, place.trans tidy.place_eq, ?_, nodup,
    nextNodup, ?_, ?_, ?_⟩
  · exact tidy.following_place.imp id nextPlace.trans
  · exact List.nodup_cons.mpr
      ⟨fun again => (tidy.settled position again).2 isPending, tidy.visited_nodup⟩
  · exact List.forall_mem_cons.mpr ⟨⟨inside, Nat.le_refl _⟩, tidy.within⟩
  · intro other present
    rcases List.mem_cons.mp present with equal | before
    · obtain rfl : other = position := (Prod.mk.inj equal).1
      exact ⟨(kept other marked).1, fun queued => notBelow ((kept other marked).2 queued)⟩
    · obtain ⟨otherMarked, notPending⟩ := tidy.settled other before
      refine ⟨(kept other otherMarked).1, fun queued => notPending ?_⟩
      rw [pending]
      exact List.mem_cons_of_mem _ ((kept other otherMarked).2 queued)

/-- The frontiers change places tidily when nothing is pending at a place. -/
theorem Tidy.swap
    {count total : Nat}
    {stage : Stage α}
    {symbol : α}
    {rest : List α}
    (tidy : Tidy count total stage)
    (drained : stage.current.pending = [])
    (more : stage.rest = symbol :: rest) :
    Tidy count total
      (.opening rest (stage.place + 1) stage.following stage.current stage.visited) := by
  have ahead : stage.following.place = stage.place + 1 := by
    rcases tidy.following_place with finished | ahead
    · rw [more] at finished
      cases finished
    · exact ahead
  refine .opening ?_ tidy.following_valid ahead tidy.following_nodup
    tidy.current_valid drained
    ?_ tidy.visited_nodup ?_
  · rw [← tidy.total_eq, more, List.length_cons]
    omega
  · rw [tidy.place_eq]
    exact Nat.le_succ _
  · exact fun visit present =>
      ⟨(tidy.within visit present).1, Nat.lt_succ_of_le (tidy.within visit present).2⟩

/-- Every stage that occurs in a pass is tidy. -/
theorem Occurs.tidy {stage : Stage α} (occurs : Occurs takes elements symbols stage) :
    Tidy elements.length symbols.length stage := by
  induction occurs with
  | start =>
      refine .opening (Nat.zero_add _) ((Frontier.Valid.empty _).add 0)
        (Frontier.place_add _ _) ?_ (.empty _) rfl (Nat.le_refl 0) List.nodup_nil
          (by simp)
      exact (Frontier.Valid.empty _).nodup_pending_add List.nodup_nil 0
  | visit _ pending tidy => exact tidy.visit pending takes elements.toArray
  | swap _ drained more _ tidy => exact tidy.swap drained more

/-! ## The whole pass -/

/-- After its last visit of a place, a pass stands where the sweep of the place ends. -/
theorem Occurs.drained {stage : Stage α} (occurs : Occurs takes elements symbols stage) :
    let swept := stage.swept takes elements.toArray
    Occurs takes elements symbols
        ⟨stage.rest, stage.place, swept.current, swept.following,
          swept.visited.map (·, stage.place) ++ stage.visited⟩ ∧
      swept.current.pending = [] := by
  refine sweep_preserves
    (fun state => Occurs takes elements symbols
      ⟨stage.rest, stage.place, state.current, state.following,
        state.visited.map (·, stage.place) ++ stage.visited⟩)
    ?_ stage.current stage.following [] occurs
  intro state position others pending reached
  have next := reached.visit pending
  unfold Stage.visit Sweep.visit at next
  unfold Sweep.visit
  cases moved : moveOf takes elements.toArray stage.rest position <;>
    simpa [moved] using next

/-- A pass comes to a stage at which nothing is pending and all its visits were made. -/
theorem Occurs.exists_last
    {stage : Stage α}
    (occurs : Occurs takes elements symbols stage) :
    ∃ last, Occurs takes elements symbols last ∧ last.current.pending = [] ∧
      last.visited = (run takes elements symbols).visited := by
  induction left : stage.rest generalizing stage with
  | nil =>
      obtain ⟨reached, drained⟩ := occurs.drained
      refine ⟨_, reached, drained, ?_⟩
      rw [← occurs.outcome_eq]
      unfold Stage.outcome
      rw [left]
  | cons symbol rest inductionHypothesis =>
      obtain ⟨reached, drained⟩ := occurs.drained
      cases stuck : (stage.swept takes elements.toArray).following.pending.isEmpty &&
          !rest.isEmpty with
      | true =>
          refine ⟨_, reached, drained, ?_⟩
          rw [← occurs.outcome_eq]
          unfold Stage.outcome
          simp only [left, stuck, if_true]
      | false =>
          refine inductionHypothesis (reached.swap drained left stuck) ?_
          cases rest <;> rfl

end

/-- Pairs of a position and a place that are all different are no more than there are
pairs. -/
theorem length_le_of_nodup
    {visited : List (Nat × Nat)}
    {positions places : Nat}
    (nodup : visited.Nodup)
    (within : ∀ visit ∈ visited, visit.1 < positions ∧ visit.2 ≤ places) :
    visited.length ≤ positions * (places + 1) := by
  have among : visited ⊆ List.range positions ×ˢ List.range (places + 1) := by
    rintro ⟨position, place⟩ present
    obtain ⟨inside, reached⟩ := within _ present
    rw [List.mem_product, List.mem_range, List.mem_range]
    exact ⟨inside, Nat.lt_succ_of_le reached⟩
  have bound := (List.subperm_of_subset nodup among).length_le
  rwa [List.length_product, List.length_range, List.length_range] at bound

end Matching

namespace Pattern

open Matching (Occurs)

/-- Matching visits each pair of a pattern position and a place of the text at most
once, and only positions that hold an element. At every stage of a pass no mark is later
than the place of its frontier, so that the end counts as reached only if it was added
at that very place, and when the visits of a place are over nothing is pending in the
frontier that is used again. -/
theorem visits_once (pattern : Pattern) (text : Text) :
    let symbols := pattern.options.folding.symbols text
    let run := Matching.run Element.takes pattern.elements symbols
    run.matched = pattern.matchElements text ∧
      run.visited.Nodup ∧
      (∀ visit ∈ run.visited, visit.1 < pattern.elements.length ∧ visit.2 ≤ text.length) ∧
      run.visited.length ≤ pattern.elements.length * (text.length + 1) ∧
      (∃ last, Occurs Element.takes pattern.elements symbols last ∧
        last.current.pending = [] ∧ last.visited = run.visited) ∧
      ∀ stage, Occurs Element.takes pattern.elements symbols stage →
        stage.outcome Element.takes pattern.elements.toArray = run ∧
          (stage.swept Element.takes pattern.elements.toArray).current.pending = [] ∧
          ∀ frontier : Frontier, frontier = stage.current ∨ frontier = stage.following →
            (∀ position place : Nat, frontier.marks[position]? = some (some place) →
              place ≤ frontier.place) ∧
            (frontier.reachedEnd = true ↔
              frontier.isMarked pattern.elements.length = true) := by
  intro symbols run
  have begins : Occurs Element.takes pattern.elements symbols _ := .start
  obtain ⟨last, occurs, drained, visited⟩ := begins.exists_last
  have tidy := occurs.tidy
  have nodup : run.visited.Nodup := visited ▸ tidy.visited_nodup
  have symbolCount : symbols.length = text.length := List.length_map _
  have within : ∀ visit ∈ run.visited,
      visit.1 < pattern.elements.length ∧ visit.2 ≤ text.length := by
    intro visit present
    rw [← visited] at present
    obtain ⟨position, place⟩ := tidy.within visit present
    have total := tidy.total_eq
    exact ⟨position, by omega⟩
  refine ⟨rfl, nodup, within, Matching.length_le_of_nodup nodup within,
    ⟨last, occurs, drained, visited⟩, ?_⟩
  intro stage reached
  refine ⟨reached.outcome_eq, reached.drained.2, ?_⟩
  rintro frontier (rfl | rfl)
  · have valid := reached.tidy.current_valid
    exact ⟨valid.past, valid.reachedEnd_iff⟩
  · have valid := reached.tidy.following_valid
    exact ⟨valid.past, valid.reachedEnd_iff⟩

/-- Two runs and a literal. Every pair is visited, so that no smaller bound would do. -/
theorem visits_once_example :
    ∃ pattern : Pattern, pattern.text = "**b".toList ∧
      let symbols := pattern.options.folding.symbols "ab".toList
      let run := Matching.run Element.takes pattern.elements symbols
      pattern.matchElements "ab".toList = true ∧
        run.visited =
          [(2, 2), (1, 2), (0, 2), (0, 1), (2, 1), (1, 1), (2, 0), (1, 0), (0, 0)] ∧
        run.visited.Nodup ∧ run.visited.length ≤ 3 * 3 ∧
        (Matching.Stage.swept Element.takes pattern.elements.toArray
          (.opening symbols 0 ((Frontier.empty 3).add 0) (Frontier.empty 3)
            [])).current.pending = [] := by
  let pattern : Pattern :=
    ⟨"**b".toList, none, .none, [.star, .star, .literal 'b'], by decide, by decide⟩
  obtain ⟨matched, nodup, -, bound, -, stages⟩ := pattern.visits_once "ab".toList
  obtain ⟨-, drained, -⟩ := stages _ .start
  refine ⟨pattern, rfl, ?_, ?_, nodup, bound, drained⟩
  · decide +kernel
  · decide +kernel

end Pattern
end WildcardDiff
