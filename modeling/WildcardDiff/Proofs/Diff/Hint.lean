import WildcardDiff.Diff.Hint
import WildcardDiff.Proofs.Pattern.Elements

/-!
# Hints and matching

A hint compares a line with the positions of a pattern one by one. For a pattern without
runs the positions stand where its elements do, so a line that matches differs at none
of them. Without sets as well, nothing but the positions decides about a match, and
there is a hint for every line that does not match.
-/

namespace WildcardDiff

/-- The position that a construct fills when a hint is looked for. -/
def Construct.position : Construct → Option Char
  | .literal char => some char
  | _ => none

namespace Hint

variable {folding : Folding} {places : List (Option Char)} {actual : Text}

/-- Whether a position of a pattern lets a character pass: a wildcard does, and a
literal that is the same character after folding. -/
def Suits (folding : Folding) : Option Char → Char → Prop
  | some expected, actual => folding.apply [expected] = folding.apply [actual]
  | none, _ => True

/-- No position differs exactly if all that have a character let it pass. -/
theorem firstDifference_eq_none_iff {start : Nat} :
    firstDifference folding start places actual = none ↔
      ∀ pair ∈ places.zip actual, Suits folding pair.1 pair.2 := by
  fun_induction firstDifference folding start places actual with
  | case1 start expected expecteds char chars same inductionHypothesis =>
      rw [inductionHypothesis, List.zip_cons_cons, List.forall_mem_cons]
      exact (and_iff_right same).symm
  | case2 start expected expecteds char chars differs =>
      rw [List.zip_cons_cons, List.forall_mem_cons]
      exact iff_of_false nofun fun suits => differs suits.1
  | case3 start expecteds char chars inductionHypothesis =>
      rw [inductionHypothesis, List.zip_cons_cons, List.forall_mem_cons]
      exact (and_iff_right trivial).symm
  | case4 start chars => simp
  | case5 start expecteds => simp

/-- Nothing differs exactly if the characters are as many as the positions, and each
passes at its own. -/
theorem find_eq_none_iff {pattern : Pattern} :
    find pattern actual = none ↔
      List.Forall₂ (Suits pattern.options.folding) (positions pattern.events) actual := by
  have parts : find pattern actual = none ↔
      (positions pattern.events).length = actual.length ∧
        firstDifference pattern.options.folding 0 (positions pattern.events) actual =
          none := by
    unfold find
    dsimp only
    cases firstDifference pattern.options.folding 0
      (positions pattern.events) actual <;> simp
  rw [parts, firstDifference_eq_none_iff, List.forall₂_iff_zip]
  exact and_congr_right fun _ => Prod.forall

theorem positions_append (front back : List Event) :
    positions (front ++ back) = positions front ++ positions back :=
  List.filterMap_append

theorem positions_events (construct : Construct) :
    positions construct.events = [construct.position] := by
  cases construct with
  | set choices =>
      have silent : positions (choices.map Choice.event) = [] := by
        unfold positions
        rw [List.filterMap_eq_nil_iff, List.forall_mem_map]
        intro choice _
        cases choice <;> rfl
      rw [Construct.events, List.cons_append, ← List.singleton_append, positions_append,
        positions_append, silent]
      rfl
  | _ => rfl

/-- Every construct fills one position. -/
theorem positions_constructs (constructs : List Construct) :
    positions (constructs.flatMap Construct.events) =
      constructs.map Construct.position := by
  induction constructs with
  | nil => rfl
  | cons construct constructs inductionHypothesis =>
      rw [List.flatMap_cons, positions_append, positions_events, inductionHypothesis,
        List.singleton_append, List.map_cons]

end Hint

/-! ## Constructs of one character -/

namespace Construct

variable {options : Options} {construct : Construct} {char : Char}

/-- A character that a construct takes passes at its position. -/
theorem suits_of_takes (takes : (construct.charPortion options).Takes [char]) :
    Hint.Suits options.folding construct.position char := by
  rw [charPortion, Element.takes_charPortion_iff] at takes
  cases construct with
  | literal expected =>
      obtain ⟨_, same, folded⟩ := takes
      obtain rfl := List.singleton_inj.mp same
      exact folded.symm
  | _ => trivial

/-- Unless it is a set, a construct takes each character that passes at its position. -/
theorem takes_of_suits
    (notSet : ∀ choices, construct ≠ .set choices)
    (suits : Hint.Suits options.folding construct.position char) :
    (construct.charPortion options).Takes [char] := by
  rw [charPortion, Element.takes_charPortion_iff]
  cases construct with
  | literal expected => exact ⟨char, rfl, suits.symm⟩
  | star => trivial
  | question => exact ⟨char, rfl⟩
  | set choices => exact absurd rfl (notSet choices)

theorem ne_star_of_events
    {constructs : List Construct}
    (runless : Event.star ∉ constructs.flatMap events) :
    ∀ construct ∈ constructs, construct ≠ .star := by
  rintro _ present rfl
  exact runless (List.mem_flatMap_of_mem present List.mem_cons_self)

theorem ne_set_of_events
    {constructs : List Construct}
    (setless : Event.setOpen ∉ constructs.flatMap events) :
    ∀ construct ∈ constructs, ∀ choices, construct ≠ .set choices := by
  rintro _ present choices rfl
  exact setless (List.mem_flatMap_of_mem present List.mem_cons_self)

end Construct

/-- A pattern without runs matches the texts whose characters its constructs take one by
one. -/
theorem Pattern.isMatch_iff_forall₂
    {pattern : Pattern}
    {constructs : List Construct}
    (events : pattern.events = constructs.flatMap Construct.events)
    (runless : Event.star ∉ pattern.events)
    (text : Text) :
    pattern.isMatch text = true ↔
      List.Forall₂
        (fun construct char =>
          (Construct.charPortion pattern.options construct).Takes [char])
        constructs text := by
  rw [events] at runless
  rw [isMatch_iff_accepts, portions_of_events events, Portion.accepts_iff_forall₂,
    List.forall₂_map_left_iff]
  rw [List.forall_mem_map]
  intro construct present
  exact construct.isOne_charPortion pattern.options
    (Construct.ne_star_of_events runless construct present)

/-- For a pattern without runs no hint is given on a line that it matches. If it has no
sets either, a hint is given on every other line, whatever the options are. -/
theorem Hint.message?_eq_none_iff_isMatch
    (pattern : Pattern)
    (runless : Event.star ∉ pattern.events)
    (actual : Text) :
    (pattern.isMatch actual = true → message? pattern actual = none) ∧
      (Event.setOpen ∉ pattern.events →
        (message? pattern actual = none ↔ pattern.isMatch actual = true)) := by
  obtain ⟨constructs, -, events⟩ := pattern.exists_constructs
  have matches_iff := Pattern.isMatch_iff_forall₂ events runless actual
  have silent_iff : message? pattern actual = none ↔
      List.Forall₂ (fun construct =>
        Suits pattern.options.folding (Construct.position construct))
        constructs actual := by
    rw [message?, Option.map_eq_none_iff, find_eq_none_iff, events, positions_constructs,
      List.forall₂_map_left_iff]
  have silent : pattern.isMatch actual = true → message? pattern actual = none := by
    rw [matches_iff, silent_iff]
    exact List.Forall₂.imp fun construct char => Construct.suits_of_takes
  refine ⟨silent, fun setless => ⟨?_, silent⟩⟩
  rw [matches_iff, silent_iff]
  intro passes
  rw [events] at setless
  have apart := (List.forall₂_and_left constructs actual).mpr
    ⟨Construct.ne_set_of_events setless, passes⟩
  exact apart.imp fun construct char suits => Construct.takes_of_suits suits.1 suits.2

/-- A sharp s, which folds to two characters, an asterisk that is escaped and a single
character. The capital sharp s is the same letter, a single s is not. -/
theorem Hint.message?_eq_none_iff_isMatch_example :
    ∃ pattern : Pattern, pattern.text = "ß\\*?".toList ∧ pattern.options = ⟨2⟩ ∧
      Event.star ∉ pattern.events ∧ Event.setOpen ∉ pattern.events ∧
      pattern.isMatch "ẞ*x".toList = true ∧ message? pattern "ẞ*x".toList = none ∧
      pattern.isMatch "s*x".toList = false ∧ message? pattern "s*x".toList ≠ none := by
  let pattern : Pattern :=
    ⟨"ß\\*?".toList, some '\\', ⟨2⟩, [.literal 'ß', .literal '*', .question],
      by decide, by decide⟩
  have runless : Event.star ∉ pattern.events := by decide
  have setless : Event.setOpen ∉ pattern.events := by decide
  have hint := Hint.message?_eq_none_iff_isMatch pattern runless
  have matched : pattern.isMatch "ẞ*x".toList = true := by decide +kernel
  have mismatched : pattern.isMatch "s*x".toList = false := by decide +kernel
  refine ⟨pattern, rfl, rfl, runless, setless, matched, (hint _).1 matched,
    mismatched, ?_⟩
  rw [ne_eq, (hint _).2 setless, mismatched]
  decide

end WildcardDiff
