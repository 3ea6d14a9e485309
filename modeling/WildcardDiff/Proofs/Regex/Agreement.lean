import WildcardDiff.Proofs.Pattern.Elements
import WildcardDiff.Proofs.Regex.Acceptance
import WildcardDiff.Diff.Analyzer

/-!
# Agreement of the matchers

While letter case counts, a pattern and both of its regular expressions accept the same
texts: each of the three is a row of portions, and the portions are the same. Hence the
captures of a line that a pattern matches are always recovered.
-/

namespace WildcardDiff

/-- With one character, what a choice offers is what a regular expression takes it for. -/
theorem Choice.holds_singleton (choice : Choice) (char : Char) :
    choice.holds [char] = choice.item.accepts char := by
  cases choice with
  | one listed => simp [Choice.holds, Choice.item, Regex.Item.accepts, eq_comm]
  | range low high => simp [Choice.holds, Choice.item, Regex.Item.accepts, Regex.inRange]

/-- While letter case counts, a set takes a character exactly if one of its choices
does. -/
theorem Construct.contains_charSet (choices : List Choice) (char : Char) :
    (charSet false choices).contains [char] =
      choices.any fun choice => choice.item.accepts char := by
  have forms : (charSet false choices).forms [char] = [[char]] := by
    simp [CharSet.forms, ignoreCase_charSet]
  unfold CharSet.contains
  rw [forms, List.any_cons, List.any_nil, Bool.or_false, holds_charSet]
  congr 1
  funext choice
  exact choice.holds_singleton char

/-- While letter case counts, a construct is the same portion to a pattern and to its
regular expressions. -/
theorem Construct.charPortion_element
    {options : Options}
    (caseful : options.ignoreCase = false)
    (construct : Construct) :
    (construct.element options).charPortion options.folding =
      construct.portion false := by
  have folding := Options.folding_eq_exact caseful
  rw [folding]
  cases construct with
  | literal char =>
      change Portion.one _ = Portion.one _
      congr 1
      funext given
      simp [Element.takes, Folding.symbol, Folding.apply, folding, Regex.Class.accepts]
  | star => rfl
  | question => rfl
  | set choices =>
      change Portion.one _ = Portion.one _
      congr 1
      funext given
      rw [Function.comp_apply, caseful]
      change (charSet false choices).contains [given] = (choices.map Choice.item).any _
      rw [contains_charSet, List.any_map]
      rfl

section

variable {pattern : Pattern} {constructs : List Construct}

theorem Pattern.portions_eq
    (caseful : pattern.options.ignoreCase = false)
    (events : pattern.events = constructs.flatMap Construct.events) :
    pattern.portions = constructs.map (Construct.portion false) := by
  rw [portions_of_events events]
  apply List.map_congr_left
  intro construct _
  exact construct.charPortion_element caseful

theorem Pattern.compileRegex?_plain
    (wellFormed : ∀ construct ∈ constructs, construct.WellFormed)
    (events : pattern.events = constructs.flatMap Construct.events) :
    pattern.compileRegex? false =
      some ((Regex.Frame.simplified constructs).pieces false) := by
  unfold compileRegex? regex
  rw [events, Regex.ofEvents_plain]
  exact Regex.Frame.ofSource?_source false (Regex.Frame.wellFormed_simplified wellFormed)

theorem Pattern.compileRegex?_capturing
    (wellFormed : ∀ construct ∈ constructs, construct.WellFormed)
    (events : pattern.events = constructs.flatMap Construct.events) :
    pattern.compileRegex? true = some ((Regex.Frame.whole constructs).pieces true) := by
  unfold compileRegex? regex
  rw [events, Regex.ofEvents_capturing]
  exact Regex.Frame.ofSource?_source true wellFormed

end

/-- The plain regular expression of a pattern that heeds letter case finds something in
a text exactly if the pattern matches the text. -/
theorem Pattern.isSome_search_iff_isMatch
    (pattern : Pattern)
    (caseful : pattern.options.ignoreCase = false) :
    ∃ pieces, pattern.compileRegex? false = some pieces ∧
      ∀ text, (Regex.search pattern.options.ignoreCase pieces text).isSome = true ↔
        pattern.isMatch text = true := by
  obtain ⟨constructs, wellFormed, events⟩ := pattern.exists_constructs
  refine ⟨_, compileRegex?_plain wellFormed events, ?_⟩
  intro text
  rw [caseful, Regex.Frame.isSome_search_pieces, Regex.accepts_simplified,
    isMatch_iff_accepts, portions_eq caseful events]

/-- A set whose bounds mean something in a regular expression, between two runs, and a
text of several lines. -/
theorem Pattern.isMatch_of_search_example :
    ∃ pattern : Pattern, pattern.text = "*[(-.]^*".toList ∧
      pattern.options.ignoreCase = false ∧
      pattern.compileRegex? false = some
        [⟨.one (.set [.range '(' '.']), false⟩, ⟨.one (.single '^'), false⟩] ∧
      pattern.isMatch "a\n+^\n".toList = true := by
  let pattern : Pattern :=
    ⟨"*[(-.]^*".toList, none, .none,
      [.star, .setOpen, .setRange '(' '.', .setClose, .literal '^', .star],
      by decide, by decide⟩
  have caseful : Options.none.ignoreCase = false := by decide
  obtain ⟨pieces, compiled, agrees⟩ := pattern.isSome_search_iff_isMatch caseful
  have known : pattern.compileRegex? false = some
      [⟨.one (.set [.range '(' '.']), false⟩, ⟨.one (.single '^'), false⟩] := by
    decide
  refine ⟨pattern, rfl, caseful, known, (agrees _).mp ?_⟩
  rw [Option.some.inj (compiled.symm.trans known)]
  decide

/-! ## Captures -/

namespace Analyzer

/-- Captures that are extracted are returned, and nothing is logged. -/
theorem captures_eq
    (analyzer : Analyzer)
    {pattern : Pattern}
    {line : Text}
    {groups : List Text}
    (captured : analyzer.extract pattern line = .captured groups)
    (journal : Log.Journal) :
    (analyzer.captures pattern line).run.run journal =
      (.ok (groups.map Value.ofText), journal) := by
  unfold captures
  rw [captured]
  rfl

end Analyzer

/-- The capturing regular expression of a pattern that heeds letter case matches exactly
the texts that the pattern matches. So an analyzer that extracts captures with it
recovers those of every line that matches: the placeholder is never used, and nothing is
logged. -/
theorem Pattern.isSome_fullMatch_iff_isMatch
    (pattern : Pattern)
    (caseful : pattern.options.ignoreCase = false) :
    ∃ pieces, pattern.compileRegex? true = some pieces ∧
      ∀ line,
        ((Regex.fullMatch pattern.options.ignoreCase pieces line).isSome = true ↔
          pattern.isMatch line = true) ∧
        (pattern.isMatch line = true ->
          ∀ analyzer : Analyzer, analyzer.extract = Pattern.extract ->
            ∃ groups, Regex.fullMatch pattern.options.ignoreCase pieces line =
              some groups ∧
              ∀ journal, (analyzer.captures pattern line).run.run journal =
                (.ok (groups.map Value.ofText), journal)) := by
  obtain ⟨constructs, wellFormed, events⟩ := pattern.exists_constructs
  have compiled := compileRegex?_capturing wellFormed events
  refine ⟨_, compiled, ?_⟩
  intro line
  have agrees : (Regex.fullMatch pattern.options.ignoreCase
      ((Regex.Frame.whole constructs).pieces true) line).isSome = true ↔
        pattern.isMatch line = true := by
    rw [caseful, Regex.Frame.isSome_fullMatch_whole, isMatch_iff_accepts,
      portions_eq caseful events]
  refine ⟨agrees, ?_⟩
  intro matched analyzer extracts
  obtain ⟨groups, found⟩ := Option.isSome_iff_exists.mp (agrees.mpr matched)
  refine ⟨groups, found, ?_⟩
  apply analyzer.captures_eq
  rw [extracts]
  unfold extract
  rw [compiled]
  simp only [found]

/-- A set, a run and a single character, each with what it takes of a line. -/
theorem Pattern.captures_example :
    ∃ pattern : Pattern, pattern.text = "[]a-c]*.?".toList ∧
      pattern.options.ignoreCase = false ∧
      pattern.isMatch "]x.y.z".toList = true ∧
      ∀ journal, (Analyzer.captures {} pattern "]x.y.z".toList).run.run journal =
        (.ok (["]".toList, "x.y".toList, "z".toList].map Value.ofText), journal) := by
  let pattern : Pattern :=
    ⟨"[]a-c]*.?".toList, none, .none,
      [.setOpen, .setMember ']', .setRange 'a' 'c', .setClose, .star, .literal '.',
        .question],
      by decide, by decide⟩
  have caseful : Options.none.ignoreCase = false := by decide
  obtain ⟨pieces, compiled, recovers⟩ := pattern.isSome_fullMatch_iff_isMatch caseful
  have known : pattern.compileRegex? true = some
      [⟨.start, false⟩, ⟨.one (.set [.one ']', .range 'a' 'c']), true⟩, ⟨.run true, true⟩,
        ⟨.one (.single '.'), false⟩, ⟨.one .any, true⟩, ⟨.finish, false⟩] := by
    decide
  obtain rfl := Option.some.inj (compiled.symm.trans known)
  obtain ⟨agrees, captures⟩ := recovers "]x.y.z".toList
  have matched : pattern.isMatch "]x.y.z".toList = true := agrees.mp (by decide)
  obtain ⟨groups, found, returned⟩ := captures matched {} rfl
  have texts : groups = ["]".toList, "x.y".toList, "z".toList] :=
    Option.some.inj (found.symm.trans (by decide))
  refine ⟨pattern, rfl, caseful, matched, ?_⟩
  intro journal
  rw [returned, texts]

end WildcardDiff
