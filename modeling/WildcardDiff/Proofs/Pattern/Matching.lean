import WildcardDiff.Pattern.Basic
import WildcardDiff.Proofs.Pattern.Portion
import WildcardDiff.Proofs.Pattern.Sweep

/-!
# What a pass decides

A pattern position is reachable at a place if some way of taking the items before the
place leads there. Each place of a pass hands a frontier on to the next, in which the
positions that are reachable without passing a run on are marked. A whole pass therefore
succeeds exactly if the position after the last element is reachable at the end, which
is so exactly if the portions of the elements accept the sequence.
-/

namespace WildcardDiff
namespace Portion

/-- The positions in a row of portions that some way of taking the items before a place
reaches. -/
inductive Reaches (portions : List (Portion α)) (items : List α) : Nat -> Nat -> Prop
  | start : Reaches portions items 0 0
  | take {fits : α -> Bool} {item : α} {position place : Nat} :
      Reaches portions items position place -> portions[position]? = some (.one fits) ->
      items[place]? = some item -> fits item = true ->
      Reaches portions items (position + 1) (place + 1)
  | leave {position place : Nat} :
      Reaches portions items position place -> portions[position]? = some .run ->
      Reaches portions items (position + 1) place
  | stay {item : α} {position place : Nat} :
      Reaches portions items position place -> portions[position]? = some .run ->
      items[place]? = some item -> Reaches portions items position (place + 1)

/-- From a position and place that are reached, portions that accept the rest lead to the
end. -/
theorem Accepts.reaches
    {portions : List (Portion α)}
    {items : List α}
    (accepts : Accepts portions items)
    (front : List (Portion α))
    (before : List α)
    (reached : Reaches (front ++ portions) (before ++ items) front.length before.length) :
    Reaches (front ++ portions) (before ++ items)
      (front ++ portions).length (before ++ items).length := by
  induction accepts generalizing front before with
  | nil => simpa using reached
  | @take fits item portions items fit _ inductionHypothesis =>
      have next := inductionHypothesis (front ++ [.one fits]) (before ++ [item])
      simp only [List.append_assoc, List.singleton_append, List.length_append,
        List.length_singleton] at next ⊢
      exact next (.take reached (by simp) (by simp) fit)
  | @leave portions items _ inductionHypothesis =>
      have next := inductionHypothesis (front ++ [.run]) before
      simp only [List.append_assoc, List.singleton_append, List.length_append,
        List.length_singleton] at next ⊢
      exact next (.leave reached (by simp))
  | @stay item portions items _ inductionHypothesis =>
      have next := inductionHypothesis front (before ++ [item])
      simp only [List.append_assoc, List.singleton_append, List.length_append,
        List.length_singleton] at next ⊢
      have current : (before ++ item :: items)[before.length]? = some item := by simp
      exact next (.stay reached (by simp) current)

/-- What accepts the rest from a position and place that are reached accepts the whole. -/
theorem Reaches.accepts
    {portions : List (Portion α)}
    {items : List α}
    {position place : Nat}
    (reached : Reaches portions items position place)
    (rest : Accepts (portions.drop position) (items.drop place)) :
    Accepts portions items := by
  induction reached with
  | start => simpa using rest
  | take _ portion item fit inductionHypothesis =>
      obtain ⟨inside, rfl⟩ := List.getElem?_eq_some_iff.mp item
      obtain ⟨within, same⟩ := List.getElem?_eq_some_iff.mp portion
      apply inductionHypothesis
      rw [List.drop_eq_getElem_cons inside, List.drop_eq_getElem_cons within, same]
      exact .take fit rest
  | leave _ portion inductionHypothesis =>
      obtain ⟨within, same⟩ := List.getElem?_eq_some_iff.mp portion
      apply inductionHypothesis
      rw [List.drop_eq_getElem_cons within, same]
      exact .leave rest
  | stay _ portion item inductionHypothesis =>
      obtain ⟨inside, rfl⟩ := List.getElem?_eq_some_iff.mp item
      obtain ⟨within, same⟩ := List.getElem?_eq_some_iff.mp portion
      apply inductionHypothesis
      rw [List.drop_eq_getElem_cons within, same] at rest ⊢
      rw [List.drop_eq_getElem_cons inside]
      exact .stay rest

/-- A row accepts a sequence exactly if its end is reached at the end of the sequence. -/
theorem accepts_iff_reaches {portions : List (Portion α)} {items : List α} :
    Accepts portions items ↔ Reaches portions items portions.length items.length := by
  constructor
  · intro accepts
    exact accepts.reaches [] [] .start
  · intro reached
    exact reached.accepts (by simp)

/-- Every way to a later place leads through a portion at each place before it. -/
theorem Reaches.through
    {portions : List (Portion α)}
    {items : List α}
    {position place : Nat}
    (reached : Reaches portions items position place)
    {earlier : Nat}
    (before : earlier < place) :
    ∃ between, between < portions.length ∧ Reaches portions items between earlier := by
  induction reached with
  | start => omega
  | @take fits item position place origin portion _ _ inductionHypothesis =>
      by_cases last : earlier = place
      · subst last
        exact ⟨position, (List.getElem?_eq_some_iff.mp portion).1, origin⟩
      · exact inductionHypothesis (by omega)
  | leave _ _ inductionHypothesis => exact inductionHypothesis before
  | @stay item position place origin portion _ inductionHypothesis =>
      by_cases last : earlier = place
      · subst last
        exact ⟨position, (List.getElem?_eq_some_iff.mp portion).1, origin⟩
      · exact inductionHypothesis (by omega)

end Portion

namespace Matching

open Portion (Reaches)

section

variable {takes : α -> Element -> Bool} {elements : List Element} {position : Nat}

theorem moveAt_eq_linger_iff {asks : Element -> Bool} :
    moveAt elements.toArray (Element.move asks) position = .linger ↔
      (elements.map (Element.portion takes))[position]? = some .run := by
  unfold moveAt
  rw [List.getElem?_toArray, List.getElem?_map]
  cases elements[position]? with
  | none => simp
  | some element =>
      cases element with
      | anyRun => simp [Element.move, Element.portion]
      | literal folded =>
          simp only [Element.move, Element.portion, Option.map_some]
          split <;> simp
      | anyChar =>
          simp only [Element.move, Element.portion, Option.map_some]
          split <;> simp
      | oneOf set =>
          simp only [Element.move, Element.portion, Option.map_some]
          split <;> simp

theorem moveAt_atEnd_eq_linger_iff :
    moveAt elements.toArray Element.moveAtEnd position = .linger ↔
      (elements.map (Element.portion takes))[position]? = some .run := by
  unfold moveAt
  rw [List.getElem?_toArray, List.getElem?_map]
  cases elements[position]? with
  | none => simp
  | some element => cases element <;> simp [Element.moveAtEnd, Element.portion]

theorem moveAt_eq_advance_iff {symbol : α} :
    moveAt elements.toArray (Element.move (takes symbol)) position = .advance ↔
      ∃ fits, (elements.map (Element.portion takes))[position]? = some (.one fits) ∧
        fits symbol = true := by
  unfold moveAt
  rw [List.getElem?_toArray, List.getElem?_map]
  cases elements[position]? with
  | none => simp
  | some element => cases element <;> simp [Element.move, Element.portion]

/-- What holds between two places of a pass: the frontier that comes next marks the
positions that are reachable at its place without passing a run on, and none of them was
visited. -/
structure Arrived
    (takes : α -> Element -> Bool)
    (elements : List Element)
    (symbols : List α)
    (place : Nat)
    (current following : Frontier) : Prop where
  place_eq : current.place = place
  place_le : place ≤ symbols.length
  valid : current.Valid elements.length
  untouched : current.Untouched elements.length
  sound : ∀ position, current.isMarked position = true ->
    Reaches (elements.map (Element.portion takes)) symbols position place
  seeded : ∀ position,
    Reaches (elements.map (Element.portion takes)) symbols position place ->
      current.isMarked position = true ∨
        ∃ before, position = before + 1 ∧
          (elements.map (Element.portion takes))[before]? = some .run ∧
          Reaches (elements.map (Element.portion takes)) symbols before place
  following_valid : following.Valid elements.length
  following_drained : following.pending = []
  following_earlier : following.place ≤ place

variable
  {symbols : List α}
  {place : Nat}
  {current following : Frontier}

/-- A pass begins before the first element. -/
theorem Arrived.start
    (takes : α -> Element -> Bool)
    (elements : List Element)
    (symbols : List α) :
    Arrived takes elements symbols 0
      ((Frontier.empty elements.length).add 0) (Frontier.empty elements.length) where
  place_eq := by rw [Frontier.place_add]; rfl
  place_le := Nat.zero_le _
  valid := (Frontier.Valid.empty _).add 0
  untouched :=
    .add (.empty _) (.of_not_isMarked (Frontier.not_isMarked_empty _)) 0
  sound := by
    intro position marked
    rcases Frontier.isMarked_add.mp marked with marked | ⟨rfl, -⟩
    · rw [Frontier.not_isMarked_empty] at marked
      cases marked
    · exact .start
  seeded := by
    intro position reached
    cases reached with
    | start =>
        have first : 0 < (Frontier.empty elements.length).marks.size := by
          rw [(Frontier.Valid.empty _).size]
          omega
        exact .inl (Frontier.isMarked_add.mpr (.inr ⟨rfl, first⟩))
    | leave reached portion => exact .inr ⟨_, rfl, portion, reached⟩
  following_valid := .empty _
  following_drained := rfl
  following_earlier := Nat.le_refl 0

/-- The frontier of a place explores it, whichever move tells its runs. -/
theorem Arrived.explores
    (arrived : Arrived takes elements symbols place current following)
    {move : Nat -> Move}
    (runs : ∀ position, move position = .linger ↔
      (elements.map (Element.portion takes))[position]? = some .run) :
    Explores elements.length move
      (fun position =>
        Reaches (elements.map (Element.portion takes)) symbols position place)
      current := by
  refine .of_untouched arrived.valid arrived.untouched arrived.sound ?_
  intro position reached
  rcases arrived.seeded position reached
    with marked | ⟨before, equal, portion, reachedBefore⟩
  · exact .inl marked
  · have inside := (List.getElem?_eq_some_iff.mp portion).1
    rw [List.length_map] at inside
    exact .inr ⟨before, equal, inside, (runs before).mpr portion, reachedBefore⟩

/-- A sweep of a place marks exactly the positions that are reachable there. -/
theorem Arrived.explored
    (arrived : Arrived takes elements symbols place current following)
    {move : Nat -> Move}
    (runs : ∀ position, move position = .linger ↔
      (elements.map (Element.portion takes))[position]? = some .run)
    (next : Frontier) :
    Explores elements.length move
        (fun position =>
          Reaches (elements.map (Element.portion takes)) symbols position place)
        (sweep move current next []).current ∧
      (sweep move current next []).current.pending = [] := by
  have leaves : ∀ position,
      Reaches (elements.map (Element.portion takes)) symbols position place ->
      move position = .linger ->
      Reaches (elements.map (Element.portion takes)) symbols (position + 1) place :=
    fun position reached moved => reached.leave ((runs position).mp moved)
  exact (arrived.explores runs).sweep leaves next []

/-- What a position of a place sends on is reachable at the next place. -/
theorem reaches_of_target
    {symbol : α}
    (item : symbols[place]? = some symbol)
    {target : Nat}
    (reached : Reaches (elements.map (Element.portion takes)) symbols position place)
    (found : (moveAt elements.toArray (Element.move (takes symbol)) position).target?
      position = some target) :
    Reaches (elements.map (Element.portion takes)) symbols target (place + 1) := by
  cases moved : moveAt elements.toArray (Element.move (takes symbol)) position with
  | stop =>
      rw [moved] at found
      cases found
  | advance =>
      rw [moved] at found
      obtain ⟨fits, portion, fit⟩ := moveAt_eq_advance_iff.mp moved
      rw [← Option.some.inj found]
      exact reached.take portion item fit
  | linger =>
      rw [moved] at found
      rw [← Option.some.inj found]
      exact reached.stay (moveAt_eq_linger_iff.mp moved) item

/-- What is reachable at the next place was sent on, or a run passes it on there. -/
theorem target_of_reaches
    {symbol : α}
    (item : symbols[place]? = some symbol)
    {target : Nat}
    (reached : Reaches (elements.map (Element.portion takes)) symbols target
      (place + 1)) :
    (∃ position, position < elements.length ∧
        Reaches (elements.map (Element.portion takes)) symbols position place ∧
        (moveAt elements.toArray (Element.move (takes symbol)) position).target?
          position = some target) ∨
      ∃ before, target = before + 1 ∧
        (elements.map (Element.portion takes))[before]? = some .run ∧
        Reaches (elements.map (Element.portion takes)) symbols before (place + 1) := by
  have within : ∀ {position : Nat} {portion : Portion α},
      (elements.map (Element.portion takes))[position]? = some portion ->
      position < elements.length := by
    intro position portion found
    simpa using (List.getElem?_eq_some_iff.mp found).1
  cases reached with
  | take origin portion found fit =>
      rw [item] at found
      cases found
      refine .inl ⟨_, within portion, origin, ?_⟩
      rw [moveAt_eq_advance_iff.mpr ⟨_, portion, fit⟩]
      rfl
  | leave origin portion => exact .inr ⟨_, rfl, portion, origin⟩
  | stay origin portion _ =>
      refine .inl ⟨_, within portion, origin, ?_⟩
      rw [moveAt_eq_linger_iff.mpr portion]
      rfl

theorem Arrived.moveTo_eq
    (arrived : Arrived takes elements symbols place current following) :
    current.moveTo place = current := by
  rw [← arrived.place_eq]
  rfl

/-- A sweep of a place marks at the next place what its positions send there. -/
theorem Arrived.feeds
    (arrived : Arrived takes elements symbols place current following)
    {symbol : α}
    (item : symbols[place]? = some symbol) :
    Feeds elements.length (moveAt elements.toArray (Element.move (takes symbol)))
      (fun position =>
        Reaches (elements.map (Element.portion takes)) symbols position (place + 1))
      (sweep (moveAt elements.toArray (Element.move (takes symbol))) current
        (following.moveTo (place + 1)) []) := by
  have unmarked := arrived.following_valid.not_isMarked_moveTo
    (Nat.lt_succ_of_le arrived.following_earlier)
  have moved := arrived.following_valid.moveTo arrived.following_drained
    (Nat.le_succ_of_le arrived.following_earlier)
  refine Feeds.sweep ?_ ?_ (arrived.explores fun _ => moveAt_eq_linger_iff)
    (.of_untouched arrived.untouched moved unmarked [])
  · intro position reached lingers
    exact reached.leave (moveAt_eq_linger_iff.mp lingers)
  · intro position target reached found
    exact reaches_of_target item reached found

/-- A sweep of one place leads to the next one. -/
theorem Arrived.step
    {symbol : α}
    (arrived : Arrived takes elements symbols place current following)
    (item : symbols[place]? = some symbol)
    {swept : Sweep}
    (swept_eq : swept =
      sweep (moveAt elements.toArray (Element.move (takes symbol))) (current.moveTo place)
        (following.moveTo (place + 1)) []) :
    Arrived takes elements symbols (place + 1) swept.following swept.current := by
  let move := moveAt elements.toArray (Element.move (takes symbol))
  have runs : ∀ position, move position = .linger ↔
      (elements.map (Element.portion takes))[position]? = some .run :=
    fun _ => moveAt_eq_linger_iff
  have places := place_sweep move current (following.moveTo (place + 1)) []
  have fed := arrived.feeds item
  have explored := arrived.explored runs (following.moveTo (place + 1))
  rw [arrived.moveTo_eq] at swept_eq
  rw [← swept_eq] at places fed explored
  obtain ⟨explored, drained⟩ := explored
  have more : place + 1 ≤ symbols.length := (List.getElem?_eq_some_iff.mp item).1
  refine ⟨places.2, more, fed.valid, fed.untouched, fed.sound, ?_, explored.valid,
    drained, ?_⟩
  · intro target reached
    rcases target_of_reaches item reached with ⟨position, inside, origin, found⟩ | passed
    · have marked := (explored.isMarked_iff drained position).mpr origin
      rcases fed.sent position inside marked with waiting | made
      · rw [drained] at waiting
        cases waiting
      · exact .inl (made target found)
    · exact .inr passed
  · rw [places.1, arrived.place_eq]
    exact Nat.le_succ place

/-- The last sweep reaches the end of the elements if anything does. -/
theorem Arrived.reachedEnd_iff
    (arrived : Arrived takes elements symbols place current following) :
    (sweep (moveAt elements.toArray Element.moveAtEnd) current following
      []).current.reachedEnd =
        true ↔
      Reaches (elements.map (Element.portion takes)) symbols elements.length place := by
  obtain ⟨explored, drained⟩ :=
    arrived.explored (fun _ => moveAt_atEnd_eq_linger_iff) following
  rw [explored.valid.reachedEnd_iff, explored.isMarked_iff drained]

/-- Where nothing is pending although items follow, the end is out of reach. -/
theorem Arrived.not_reaches_of_drained
    (arrived : Arrived takes elements symbols place current following)
    (drained : current.pending = [])
    (more : place < symbols.length) :
    ¬Reaches (elements.map (Element.portion takes)) symbols elements.length
      symbols.length := by
  have unreached : ∀ position, position < elements.length ->
      ¬Reaches (elements.map (Element.portion takes)) symbols position place := by
    intro position
    induction position with
    | zero =>
        intro inside reached
        rcases arrived.seeded 0 reached with marked | ⟨before, equal, -⟩
        · simpa [drained] using arrived.untouched 0 inside marked
        · omega
    | succ position inductionHypothesis =>
        intro inside reached
        rcases arrived.seeded (position + 1) reached
          with marked | ⟨before, equal, -, origin⟩
        · simpa [drained] using arrived.untouched (position + 1) inside marked
        · obtain rfl : position = before := by omega
          exact inductionHypothesis (by omega) origin
  intro reached
  obtain ⟨between, inside, origin⟩ := reached.through more
  rw [List.length_map] at inside
  exact unreached between inside origin

/-- From any place on, a pass succeeds exactly if the end is reachable at the end. -/
theorem matched_runFrom
    (arrived : Arrived takes elements symbols place current following)
    {rest : List α}
    (rest_eq : symbols.drop place = rest)
    (visited : List (Nat × Nat)) :
    (runFrom takes elements.toArray place current following visited rest).matched = true ↔
      Reaches (elements.map (Element.portion takes)) symbols elements.length
        symbols.length := by
  induction rest generalizing place current following visited with
  | nil =>
      have last : place = symbols.length := by
        have bound := arrived.place_le
        rw [List.drop_eq_nil_iff] at rest_eq
        omega
      simp only [runFrom]
      rw [arrived.reachedEnd_iff, last]
  | cons symbol rest inductionHypothesis =>
      have item : symbols[place]? = some symbol := by
        have head := congrArg List.head? rest_eq
        simpa using head
      have following_eq : symbols.drop (place + 1) = rest := by
        have tail := congrArg List.tail rest_eq
        simpa using tail
      have next := arrived.step item rfl
      simp only [runFrom]
      split
      · rename_i stuck
        simp only [Bool.and_eq_true, List.isEmpty_iff, Bool.not_eq_true',
          List.isEmpty_eq_false_iff] at stuck
        have more : place + 1 < symbols.length := by
          have count := congrArg List.length following_eq
          have positive := List.length_pos_iff.mpr stuck.2
          rw [List.length_drop] at count
          omega
        simpa using next.not_reaches_of_drained stuck.1 more
      · exact inductionHypothesis next following_eq _

/-- A pass succeeds exactly if the portions of the elements accept the sequence. -/
theorem matched_run
    (takes : α -> Element -> Bool)
    (elements : List Element)
    (symbols : List α) :
    (run takes elements symbols).matched = true ↔
      Portion.Accepts (elements.map (Element.portion takes)) symbols := by
  rw [Portion.accepts_iff_reaches, List.length_map]
  exact matched_runFrom (.start takes elements symbols) rfl []

end

end Matching

/-! ## Texts -/

/-- The portion that an element is for the characters of a text. -/
def Element.charPortion (folding : Folding) (element : Element) : Portion Char :=
  (element.portion Element.takes).comap fun char => folding.symbol [char]

/-- Elements match a text exactly if their portions accept its characters. -/
theorem Element.matchAll_iff {folding : Folding} {elements : List Element} {text : Text} :
    Element.matchAll folding elements text = true ↔
      Portion.Accepts (elements.map (Element.charPortion folding)) text := by
  unfold Element.matchAll Folding.symbols
  rw [Matching.matched_run, Portion.accepts_map, List.map_map]
  rfl

/-- The pattern `*` is read as a run, whatever the escape character. -/
theorem events?_star (escape : Option Char) : events? escape ['*'] = some [.star] := by
  by_cases escapes : escape = some '*'
  · subst escapes
    decide
  · simp [events?, Reading.ofText, scan, escapes, Reading.cons]

namespace Pattern

/-- The portions of a pattern. -/
def portions (pattern : Pattern) : List (Portion Char) :=
  pattern.elements.map (Element.charPortion pattern.options.folding)

/-- A pattern matches a text exactly if its portions accept the characters. The pattern
`*` is no exception. -/
theorem isMatch_iff_accepts {pattern : Pattern} {text : Text} :
    pattern.isMatch text = true ↔ Portion.Accepts pattern.portions text := by
  unfold isMatch
  rw [Bool.or_eq_true, decide_eq_true_iff]
  constructor
  · rintro (star | matched)
    · have events : pattern.events = [.star] := by
        have reads := pattern.reads
        rw [star, events?_star] at reads
        exact (Option.some.inj reads).symm
      have row : pattern.portions = [.run] := by
        unfold portions elements Element.ofEvents
        rw [events]
        rfl
      rw [row, Portion.accepts_run_cons]
      exact ⟨text, [], by simp, .nil⟩
    · exact Element.matchAll_iff.mp matched
  · intro accepts
    exact .inr (Element.matchAll_iff.mpr accepts)

/-- The elements alone decide about a match, of the pattern `*` as well. -/
theorem isMatch_eq_matchElements (pattern : Pattern) (text : Text) :
    pattern.isMatch text = pattern.matchElements text := by
  rw [Bool.eq_iff_iff, isMatch_iff_accepts]
  exact Element.matchAll_iff.symm

end Pattern

/-! ## Pieces -/

/-- Whether a piece of a text is what an element stands for. -/
def Element.Fits (folding : Folding) : Element -> Text -> Prop
  | .anyRun, _ => True
  | .anyChar, piece => ∃ char, piece = [char]
  | .oneOf set, piece => ∃ char, piece = [char] ∧ set.contains [char] = true
  | .literal folded, piece => ∃ char, piece = [char] ∧ folding.apply [char] = folded

theorem Element.takes_charPortion_iff
    {folding : Folding}
    {element : Element}
    {piece : Text} :
    (element.charPortion folding).Takes piece ↔ element.Fits folding piece := by
  cases element with
  | anyRun => rfl
  | anyChar => simp [Element.charPortion, Element.portion, Portion.comap, Portion.Takes,
      Element.Fits, Element.takes]
  | oneOf set => rfl
  | literal folded =>
      simp [Element.charPortion, Element.portion, Portion.comap, Portion.Takes,
      Element.Fits, Element.takes, Folding.symbol, eq_comm]

/-- A pattern matches a text exactly if the text can be cut into consecutive pieces, one
for each element, that the elements stand for. -/
theorem Pattern.isMatch_iff_pieces (pattern : Pattern) (text : Text) :
    pattern.isMatch text = true ↔
      ∃ pieces : List Text, pieces.flatten = text ∧
        List.Forall₂ (Element.Fits pattern.options.folding) pattern.elements pieces := by
  rw [Pattern.isMatch_iff_accepts, Portion.accepts_iff_pieces]
  unfold Pattern.portions
  simp only [List.forall₂_map_left_iff, Element.takes_charPortion_iff]

end WildcardDiff
