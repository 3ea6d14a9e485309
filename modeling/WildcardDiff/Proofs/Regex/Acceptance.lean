import WildcardDiff.Proofs.Regex.Simplified
import WildcardDiff.Regex.Matching

/-!
# Acceptance by regular expressions

Backtracking tries the lengths of runs in some order, and gives up only when no lengths
are left. Whether it finds a match does not depend on the order: pieces match exactly if
the text can be cut for the portions of their constructs. An anchor that is missing from
a search is as good as a run in its place.
-/

namespace WildcardDiff

/-- The portion that a construct is for a regular expression. -/
def Construct.portion (ignoreCase : Bool) : Construct -> Portion Char
  | .literal char => .one fun given => (Regex.Class.single char).accepts ignoreCase given
  | .star => .run
  | .question => .one fun given => Regex.Class.any.accepts ignoreCase given
  | .set choices =>
      .one fun given =>
        (Regex.Class.set (choices.map Choice.item)).accepts ignoreCase given

namespace Regex

section

variable {ignoreCase captured : Bool} {pieces : List Piece} {position : Nat} {rest : Text}

theorem mem_runLengths {isLazy : Bool} {available length : Nat} :
    length ∈ runLengths isLazy available ↔ length ≤ available := by
  cases isLazy with
  | false =>
      simp only [runLengths, Bool.false_eq_true, if_false, List.mem_reverse,
        List.mem_range, Nat.lt_succ_iff]
  | true => simp only [runLengths, if_true, List.mem_range, Nat.lt_succ_iff]

/-- A run matches with some of its lengths, whichever it tries first. -/
theorem isSome_matchAt_run {isLazy : Bool} :
    (matchAt ignoreCase (⟨.run isLazy, captured⟩ :: pieces) position rest).isSome = true ↔
      ∃ taken left, rest = taken ++ left ∧
        (matchAt ignoreCase pieces (position + taken.length) left).isSome = true := by
  rw [matchAt, List.findSome?_isSome_iff]
  simp only [mem_runLengths, Option.isSome_map]
  constructor
  · rintro ⟨length, bounded, found⟩
    refine ⟨rest.take length, rest.drop length,
      (List.take_append_drop length rest).symm, ?_⟩
    rwa [List.length_take, Nat.min_eq_left bounded]
  · rintro ⟨taken, left, rfl, found⟩
    refine ⟨taken.length, by simp, ?_⟩
    rwa [List.drop_left]

theorem isSome_matchAt_one {kind : Class} :
    (matchAt ignoreCase (⟨.one kind, captured⟩ :: pieces) position rest).isSome = true ↔
      ∃ char left, rest = char :: left ∧ kind.accepts ignoreCase char = true ∧
        (matchAt ignoreCase pieces (position + 1) left).isSome = true := by
  cases rest with
  | nil => simp [matchAt]
  | cons char left =>
      rw [matchAt]
      by_cases accepts : kind.accepts ignoreCase char = true
      · rw [if_pos accepts, Option.isSome_map]
        constructor
        · intro found
          exact ⟨char, left, rfl, accepts, found⟩
        · rintro ⟨_, _, equal, -, found⟩
          obtain ⟨rfl, rfl⟩ := List.cons.inj equal
          exact found
      · rw [if_neg accepts]
        constructor
        · intro found
          cases found
        · rintro ⟨_, _, equal, other, -⟩
          obtain ⟨rfl, rfl⟩ := List.cons.inj equal
          exact absurd other accepts

theorem isSome_matchAt_start :
    (matchAt ignoreCase (⟨.start, captured⟩ :: pieces) position rest).isSome = true ↔
      position = 0 ∧ (matchAt ignoreCase pieces position rest).isSome = true := by
  rw [matchAt]
  by_cases first : position = 0 <;> simp [first]

theorem isSome_matchAt_finish :
    (matchAt ignoreCase (⟨.finish, captured⟩ :: pieces) position rest).isSome = true ↔
      rest = [] ∧ (matchAt ignoreCase pieces position rest).isSome = true := by
  rw [matchAt]
  by_cases last : rest = [] <;> simp [last]

end

/-- Pieces realize portions if they match what the portions accept, in front of whatever
other pieces match. -/
def Realizes
    (ignoreCase : Bool)
    (front : List Piece)
    (portions : List (Portion Char)) : Prop :=
  ∀ (pieces : List Piece) (position : Nat) (rest : Text),
    (matchAt ignoreCase (front ++ pieces) position rest).isSome = true ↔
      ∃ taken left, rest = taken ++ left ∧ Portion.Accepts portions taken ∧
        (matchAt ignoreCase pieces (position + taken.length) left).isSome = true

namespace Realizes

variable {ignoreCase captured : Bool} {front : List Piece}
    {portions : List (Portion Char)}

theorem nil : Realizes ignoreCase [] [] := by
  intro pieces position rest
  constructor
  · intro found
    exact ⟨[], rest, rfl, .nil, found⟩
  · rintro ⟨taken, left, rfl, accepts, found⟩
    rw [Portion.accepts_nil.mp accepts] at found ⊢
    exact found

theorem one (kind : Class) (realizes : Realizes ignoreCase front portions) :
    Realizes ignoreCase (⟨.one kind, captured⟩ :: front)
      (.one (kind.accepts ignoreCase) :: portions) := by
  intro pieces position rest
  rw [List.cons_append, isSome_matchAt_one]
  simp only [realizes pieces]
  constructor
  · rintro ⟨char, _, rfl, fits, taken, left, rfl, accepts, found⟩
    refine ⟨char :: taken, left, rfl, .take fits accepts, ?_⟩
    rwa [List.length_cons, Nat.add_comm taken.length, ← Nat.add_assoc]
  · rintro ⟨_, left, rfl, accepts, found⟩
    obtain ⟨char, taken, rfl, fits, others⟩ := Portion.accepts_one_cons.mp accepts
    refine ⟨char, taken ++ left, rfl, fits, taken, left, rfl, others, ?_⟩
    rwa [List.length_cons, Nat.add_comm taken.length, ← Nat.add_assoc] at found

theorem run (isLazy : Bool) (realizes : Realizes ignoreCase front portions) :
    Realizes ignoreCase (⟨.run isLazy, captured⟩ :: front) (.run :: portions) := by
  intro pieces position rest
  rw [List.cons_append, isSome_matchAt_run]
  simp only [realizes pieces]
  constructor
  · rintro ⟨skipped, _, rfl, taken, left, rfl, accepts, found⟩
    refine ⟨skipped ++ taken, left, by simp, accepts.skip skipped, ?_⟩
    rwa [List.length_append, ← Nat.add_assoc]
  · rintro ⟨_, left, rfl, accepts, found⟩
    obtain ⟨skipped, taken, rfl, others⟩ := Portion.accepts_run_cons.mp accepts
    refine ⟨skipped, taken ++ left, by simp, taken, left, rfl, others, ?_⟩
    rwa [List.length_append, ← Nat.add_assoc] at found

end Realizes

/-- The pieces of constructs realize their portions. -/
theorem realizes_constructs
    (ignoreCase capturing : Bool)
    (constructs : List Construct) :
    Realizes ignoreCase (constructs.map (Construct.piece capturing))
      (constructs.map (Construct.portion ignoreCase)) := by
  induction constructs with
  | nil => exact .nil
  | cons construct constructs inductionHypothesis =>
      cases construct with
      | literal char => exact inductionHypothesis.one (.single char)
      | star => exact inductionHypothesis.run capturing
      | question => exact inductionHypothesis.one .any
      | set choices => exact inductionHypothesis.one (.set (choices.map Choice.item))

/-! ## Whole texts and searches -/

theorem mem_places {place : Nat × Text} {position : Nat} {rest : Text} :
    place ∈ places position rest ↔
      ∃ before after, rest = before ++ after ∧
        place = (position + before.length, after) := by
  induction rest generalizing position with
  | nil =>
      rw [places, List.mem_singleton]
      constructor
      · rintro rfl
        exact ⟨[], [], rfl, rfl⟩
      · rintro ⟨before, after, equal, rfl⟩
        obtain ⟨rfl, rfl⟩ := List.append_eq_nil_iff.mp equal.symm
        rfl
  | cons char rest inductionHypothesis =>
      rw [places, List.mem_cons, inductionHypothesis]
      constructor
      · rintro (rfl | ⟨before, after, rfl, rfl⟩)
        · exact ⟨[], char :: rest, rfl, rfl⟩
        · refine ⟨char :: before, after, rfl, ?_⟩
          rw [List.length_cons, Nat.add_comm before.length, ← Nat.add_assoc]
      · rintro ⟨before, after, equal, rfl⟩
        cases before with
        | nil =>
            rw [List.nil_append] at equal
            exact .inl (by rw [equal]; rfl)
        | cons first before =>
            obtain ⟨rfl, rfl⟩ := List.cons.inj equal
            refine .inr ⟨before, after, rfl, ?_⟩
            rw [List.length_cons, Nat.add_comm before.length, ← Nat.add_assoc]

/-- A search succeeds exactly if the pieces match at some place of the text. -/
theorem isSome_search {ignoreCase : Bool} {pieces : List Piece} {text : Text} :
    (search ignoreCase pieces text).isSome = true ↔
      ∃ before after, text = before ++ after ∧
        (matchAt ignoreCase pieces before.length after).isSome = true := by
  rw [search_eq, List.findSome?_isSome_iff]
  simp only [Option.isSome_map, mem_places]
  constructor
  · rintro ⟨_, ⟨before, after, rfl, rfl⟩, found⟩
    exact ⟨before, after, rfl, by simpa using found⟩
  · rintro ⟨before, after, rfl, found⟩
    exact ⟨(before.length, after), ⟨before, after, rfl, by simp⟩, found⟩

namespace Frame

variable {ignoreCase capturing : Bool}

/-- Behind its constructs a frame asks for the end of the text, or for nothing, as a run
would. -/
theorem isSome_matchAt_ending {finish : Bool} {position : Nat} {rest : Text} :
    (matchAt ignoreCase
      (if finish then [⟨.finish, false⟩] else []) position rest).isSome = true ↔
      Portion.Accepts
        ((if finish then [] else [Construct.star]).map (Construct.portion ignoreCase))
          rest := by
  cases finish with
  | false =>
      have anything : Portion.Accepts [.run] rest := Portion.accepts_run rest
      simpa [matchAt, Construct.portion] using anything
  | true =>
      rw [if_pos rfl, isSome_matchAt_finish]
      simp [matchAt]

theorem isSome_matchAt_body
    {constructs : List Construct}
    {finish : Bool}
    {position : Nat}
    {rest : Text} :
    (matchAt ignoreCase (constructs.map (Construct.piece capturing) ++
        if finish then [⟨.finish, false⟩] else []) position rest).isSome = true ↔
      Portion.Accepts ((constructs ++ if finish then [] else [Construct.star]).map
        (Construct.portion ignoreCase)) rest := by
  rw [realizes_constructs, List.map_append, Portion.accepts_append]
  simp only [isSome_matchAt_ending]

/-- A search with a frame finds something exactly if the whole text is accepted with a
run in the place of each anchor that is missing. -/
theorem isSome_search_pieces (frame : Frame) (text : Text) :
    (search ignoreCase (frame.pieces capturing) text).isSome = true ↔
      Portion.Accepts (frame.completed.map (Construct.portion ignoreCase)) text := by
  rw [isSome_search]
  unfold pieces completed
  cases frame.start with
  | true =>
      simp only [if_true, List.singleton_append, List.nil_append, isSome_matchAt_start,
        isSome_matchAt_body, List.length_eq_zero_iff]
      constructor
      · rintro ⟨before, after, rfl, rfl, accepts⟩
        exact accepts
      · intro accepts
        exact ⟨[], text, rfl, rfl, accepts⟩
  | false =>
      simp only [Bool.false_eq_true, if_false, List.nil_append, List.singleton_append,
        isSome_matchAt_body, List.map_cons]
      exact Portion.accepts_run_cons.symm

/-- Constructs are matched up to the end of a text exactly if their portions accept it,
however often the end is asked for. -/
theorem isSome_matchAt_closed
    {constructs : List Construct}
    {position : Nat}
    {rest : Text} :
    (matchAt ignoreCase (constructs.map (Construct.piece capturing) ++
        [⟨.finish, false⟩, ⟨.finish, false⟩]) position rest).isSome = true ↔
      Portion.Accepts (constructs.map (Construct.portion ignoreCase)) rest := by
  rw [realizes_constructs]
  constructor
  · rintro ⟨taken, left, rfl, accepts, found⟩
    rw [isSome_matchAt_finish] at found
    rwa [found.1, List.append_nil]
  · intro accepts
    exact ⟨rest, [], by simp, accepts, by simp [matchAt]⟩

/-- A frame with both anchors matches a whole text as its constructs do from the
beginning up to the end, which the match asks for once more. -/
theorem fullMatch_whole (constructs : List Construct) (text : Text) :
    fullMatch ignoreCase ((whole constructs).pieces capturing) text =
      (matchAt ignoreCase (constructs.map (Construct.piece capturing) ++
        [⟨.finish, false⟩, ⟨.finish, false⟩]) 0 text).map fun found =>
          found.groups.map fun span => span.of text := by
  have split : (whole constructs).pieces capturing ++ [⟨.finish, false⟩] =
      ⟨.start, false⟩ :: (constructs.map (Construct.piece capturing) ++
        [⟨.finish, false⟩, ⟨.finish, false⟩]) := by
    simp [pieces, whole]
  rw [fullMatch_eq, split, matchAt, if_pos rfl]

/-- A frame with both anchors matches a whole text exactly if its portions accept it. -/
theorem isSome_fullMatch_whole (constructs : List Construct) (text : Text) :
    (fullMatch ignoreCase ((whole constructs).pieces capturing) text).isSome = true ↔
      Portion.Accepts (constructs.map (Construct.portion ignoreCase)) text := by
  rw [fullMatch_whole, Option.isSome_map, isSome_matchAt_closed]

end Frame

/-- A single run accepts no less than two runs. -/
theorem accepts_simplified
    {ignoreCase : Bool}
    {constructs : List Construct}
    {text : Text} :
    Portion.Accepts
        ((Frame.simplified constructs).completed.map
          (Construct.portion ignoreCase)) text ↔
      Portion.Accepts (constructs.map (Construct.portion ignoreCase)) text := by
  rw [Frame.completed_simplified]
  split
  · rename_i single
    rw [single]
    exact iff_of_true (.leave (Portion.accepts_run text)) (Portion.accepts_run text)
  · rfl

end Regex
end WildcardDiff
