import WildcardDiff.Proofs.Diff.Comparison

/-!
# The account that a diff gives

A diff has one line for every position at which one of the two texts has a line. Its
counts and texts are read off its lines, so what they come to follows from what each
line is: the outcome of a pair, an expected line alone or an actual line alone. Unpaired
lines come from one text only, since both texts are walked in step.
-/

namespace WildcardDiff
namespace Analyzer

variable {analyzer : Analyzer} {number : Nat} {expecteds actuals : List Text}
    {diff : Diff}

/-- The line of a diff for what the two texts have at one position. -/
inductive Line (analyzer : Analyzer) (number : Nat) :
    Option Text → Option Text → Option LineOutcome → Prop
  | absent : Line analyzer number none none none
  | extra {actual : Text} :
      Line analyzer number none (some actual) (some (extraLine number actual))
  | missing {expected : Text} :
      Line analyzer number (some expected) none (some (missingLine number expected))
  | paired {expected actual : Text} {pattern : Pattern} :
      analyzer.patternOf expected = .ok pattern →
      Line analyzer number (some expected) (some actual)
        (some (analyzer.lineOutcome number pattern expected actual))

theorem Line.number_eq
    {expected actual : Option Text}
    {line : LineOutcome}
    (holds : analyzer.Line number expected actual (some line)) :
    line.number = number := by
  cases holds with
  | extra => rfl
  | missing => rfl
  | paired accepted => exact number_lineOutcome

theorem Line.of_missing
    {expected : Text}
    {line : Option LineOutcome}
    (holds : analyzer.Line number (some expected) none line) :
    line = some (missingLine number expected) := by
  cases holds with
  | missing => rfl

theorem Line.of_extra
    {actual : Text}
    {line : Option LineOutcome}
    (holds : analyzer.Line number none (some actual) line) :
    line = some (extraLine number actual) := by
  cases holds with
  | extra => rfl

theorem Line.of_paired
    {expected actual : Text}
    {line : Option LineOutcome}
    (holds : analyzer.Line number (some expected) (some actual) line) :
    ∃ outcome, line = some outcome ∧
      (analyzer.matchLine number expected actual).Gives (.ok outcome) := by
  cases holds with
  | paired accepted => exact ⟨_, rfl, gives_matchLine accepted⟩

namespace Compares

theorem length_eq
    (compares : analyzer.Compares number expecteds actuals diff) :
    diff.length = max expecteds.length actuals.length := by
  induction compares with
  | done => rfl
  | extra _ inductionHypothesis => simp [inductionHypothesis]
  | missing _ inductionHypothesis => simp [inductionHypothesis]
  | paired _ _ inductionHypothesis =>
      simp only [List.length_cons, inductionHypothesis]
      omega

/-- What a diff has at a position depends on what both texts have there, and on nothing
else. -/
theorem line_at
    (compares : analyzer.Compares number expecteds actuals diff)
    (index : Nat) :
    analyzer.Line (number + index) expecteds[index]? actuals[index]? diff[index]? := by
  induction compares generalizing index with
  | done => exact .absent
  | extra _ inductionHypothesis =>
      cases index with
      | zero => exact .extra
      | succ index =>
          simpa [Nat.add_right_comm, Nat.add_assoc] using inductionHypothesis index
  | missing _ inductionHypothesis =>
      cases index with
      | zero => exact .missing
      | succ index =>
          simpa [Nat.add_right_comm, Nat.add_assoc] using inductionHypothesis index
  | paired accepted _ inductionHypothesis =>
      cases index with
      | zero => exact .paired accepted
      | succ index =>
          simpa [Nat.add_right_comm, Nat.add_assoc] using inductionHypothesis index

theorem filterMap_expected
    (compares : analyzer.Compares number expecteds actuals diff) :
    diff.filterMap LineOutcome.expected = expecteds := by
  induction compares with
  | done => rfl
  | extra _ inductionHypothesis => simp [extraLine, inductionHypothesis]
  | missing _ inductionHypothesis => simp [missingLine, inductionHypothesis]
  | paired _ _ inductionHypothesis => simp [inductionHypothesis]

theorem filterMap_actual
    (compares : analyzer.Compares number expecteds actuals diff) :
    diff.filterMap LineOutcome.actual = actuals := by
  induction compares with
  | done => rfl
  | extra _ inductionHypothesis => simp [extraLine, inductionHypothesis]
  | missing _ inductionHypothesis => simp [missingLine, inductionHypothesis]
  | paired _ _ inductionHypothesis => simp [inductionHypothesis]

theorem extraLines_eq
    (compares : analyzer.Compares number expecteds actuals diff) :
    diff.extraLines = (actuals.drop expecteds.length).map some := by
  unfold Diff.extraLines
  induction compares with
  | done => rfl
  | extra _ inductionHypothesis =>
      simpa [List.filter_cons, LineOutcome.isExtra, extraLine] using inductionHypothesis
  | missing _ inductionHypothesis =>
      simpa [LineOutcome.isExtra, missingLine] using inductionHypothesis
  | paired _ _ inductionHypothesis =>
      simpa [LineOutcome.isExtra] using inductionHypothesis

theorem missingLines_eq
    (compares : analyzer.Compares number expecteds actuals diff) :
    diff.missingLines = (expecteds.drop actuals.length).map some := by
  unfold Diff.missingLines
  induction compares with
  | done => rfl
  | extra _ inductionHypothesis =>
      simpa [LineOutcome.isMissing, extraLine] using inductionHypothesis
  | missing _ inductionHypothesis =>
      simpa [List.filter_cons, LineOutcome.isMissing, missingLine]
        using inductionHypothesis
  | paired _ _ inductionHypothesis =>
      simpa [LineOutcome.isMissing] using inductionHypothesis

/-- The lines that match and those that do not are the pairs. -/
theorem matchedCount_add_mismatchedCount
    (compares : analyzer.Compares number expecteds actuals diff) :
    diff.matchedCount + diff.mismatchedCount = min expecteds.length actuals.length := by
  unfold Diff.matchedCount Diff.mismatchedCount
  induction compares with
  | done => rfl
  | extra _ inductionHypothesis =>
      simpa [LineOutcome.isMismatch, LineOutcome.isExtra, extraLine]
        using inductionHypothesis
  | missing _ inductionHypothesis =>
      simpa [LineOutcome.isMismatch, LineOutcome.isMissing, missingLine]
        using inductionHypothesis
  | @paired _ _ actual _ _ pattern _ _ _ inductionHypothesis =>
      cases verdict : pattern.isMatch actual <;>
        simp [LineOutcome.isMismatch, LineOutcome.isExtra, LineOutcome.isMissing,
          verdict] <;>
        omega

/-- A diff matches when both texts have as many lines, and every expected line matches the
actual one at its position. -/
theorem overallMatch_iff
    (compares : analyzer.Compares number expecteds actuals diff) :
    diff.overallMatch = true ↔
      expecteds.length = actuals.length ∧
        ∀ pair ∈ expecteds.zip actuals, analyzer.Matches pair.1 pair.2 := by
  unfold Diff.overallMatch
  induction compares with
  | done => simp
  | extra => simp [extraLine]
  | missing => simp [missingLine]
  | paired accepted _ inductionHypothesis =>
      simp only [List.all_cons, isMatch_lineOutcome, Bool.and_eq_true,
        inductionHypothesis,
        List.length_cons, Nat.add_right_cancel_iff, List.zip_cons_cons,
        List.forall_mem_cons, matches_iff accepted]
      exact and_left_comm

end Compares

/-! ## The account of an analysis -/

/-- What a diff of expected and actual lines says about them. -/
structure Accounts (analyzer : Analyzer) (expecteds actuals : List Text) (diff : Diff) :
    Prop where
  /-- There is one line for every position of the longer text. -/
  length : diff.length = max expecteds.length actuals.length
  /-- The lines are numbered from one. -/
  numbered : ∀ (index : Nat) (line : LineOutcome),
    diff[index]? = some line → line.number = ((index + 1 : Nat) : Int)
  /-- Where both texts have a line, the diff has the outcome of comparing the two. -/
  paired : ∀ (index : Nat) (expected actual : Text),
    expecteds[index]? = some expected → actuals[index]? = some actual →
      ∃ line, diff[index]? = some line ∧
        (analyzer.matchLine ((index + 1 : Nat) : Int) expected actual).Gives (.ok line)
  /-- Where the actual text has ended, the expected line is missing. -/
  missing : ∀ (index : Nat) (expected : Text),
    expecteds[index]? = some expected → actuals.length ≤ index →
      diff[index]? = some (missingLine ((index + 1 : Nat) : Int) expected)
  /-- Where the expected text has ended, the actual line is extra. -/
  extra : ∀ (index : Nat) (actual : Text),
    actuals[index]? = some actual → expecteds.length ≤ index →
      diff[index]? = some (extraLine ((index + 1 : Nat) : Int) actual)
  counts : diff.matchedCount + diff.mismatchedCount + diff.extraCount +
    diff.missingCount = max expecteds.length actuals.length
  oneSided : diff.extraCount = 0 ∨ diff.missingCount = 0
  extraLines : diff.extraLines = (actuals.drop expecteds.length).map some
  missingLines : diff.missingLines = (expecteds.drop actuals.length).map some
  expectedText : diff.expectedText = Text.join ['\n'] expecteds
  actualText : diff.actualText = Text.join ['\n'] actuals
  overallMatch : diff.overallMatch = true ↔
    expecteds.length = actuals.length ∧
      ∀ pair ∈ expecteds.zip actuals, analyzer.Matches pair.1 pair.2

/-- The diff of an analysis accounts for the lines of both texts. -/
theorem accounts_of_analyze
    {expected actual : Option Text}
    {journal : Log.Journal}
    (succeeded : (analyzer.analyze expected actual).outcome journal = .ok diff) :
    analyzer.Accounts (Lines.ofText? expected) (Lines.ofText? actual) diff := by
  have compares := outcome_analyze_eq_ok_iff.mp succeeded
  have lineAt : ∀ index, analyzer.Line (index + 1) (Lines.ofText? expected)[index]?
      (Lines.ofText? actual)[index]? diff[index]? := by
    intro index
    rw [Nat.add_comm]
    exact compares.line_at index
  have extraCount : diff.extraCount =
      (Lines.ofText? actual).length - (Lines.ofText? expected).length := by
    simp [Diff.extraCount, compares.extraLines_eq]
  have missingCount : diff.missingCount =
      (Lines.ofText? expected).length - (Lines.ofText? actual).length := by
    simp [Diff.missingCount, compares.missingLines_eq]
  have pairCount := compares.matchedCount_add_mismatchedCount
  constructor
  case length => exact compares.length_eq
  case numbered =>
    intro index line present
    exact (present ▸ lineAt index).number_eq
  case paired =>
    intro index expectedLine actualLine expects comes
    have holds := lineAt index
    rw [expects, comes] at holds
    exact holds.of_paired
  case missing =>
    intro index expectedLine expects ended
    have holds := lineAt index
    rw [expects, List.getElem?_eq_none ended] at holds
    exact holds.of_missing
  case extra =>
    intro index actualLine comes ended
    have holds := lineAt index
    rw [comes, List.getElem?_eq_none ended] at holds
    exact holds.of_extra
  case counts => omega
  case oneSided => omega
  case extraLines => exact compares.extraLines_eq
  case missingLines => exact compares.missingLines_eq
  case expectedText => rw [Diff.expectedText, compares.filterMap_expected]
  case actualText => rw [Diff.actualText, compares.filterMap_actual]
  case overallMatch => exact compares.overallMatch_iff

/-- A line that matches, one that does not and one too many. -/
theorem accounts_of_analyze_example :
    ∃ diff : Diff,
      (({} : Analyzer).analyze (some "a?\nb".toList) (some "ax\nc\nd".toList)).outcome
        .empty = .ok diff ∧
      diff.map LineOutcome.isMatch = [true, false, false] ∧
      ({} : Analyzer).Accounts ["a?".toList, "b".toList]
        ["ax".toList, "c".toList, "d".toList]
        diff := by
  let wild : Pattern :=
    ⟨"a?".toList, some '\\', .none, [.literal 'a', .question], by decide, by decide⟩
  let plain : Pattern :=
    ⟨"b".toList, some '\\', .none, [.literal 'b'], by decide, by decide⟩
  have compares : ({} : Analyzer).Compares 1 (Lines.ofText? (some "a?\nb".toList))
      (Lines.ofText? (some "ax\nc\nd".toList))
      [lineOutcome {} 1 wild "a?".toList "ax".toList,
        lineOutcome {} 2 plain "b".toList "c".toList, extraLine 3 "d".toList] :=
    .paired rfl (.paired rfl (.extra .done))
  have succeeded := compares.gives_analyze .empty
  have first : wild.isMatch "ax".toList = true := by cbv
  have second : plain.isMatch "c".toList = false := by cbv
  refine ⟨_, succeeded, ?_, accounts_of_analyze succeeded⟩
  simp only [List.map_cons, isMatch_lineOutcome, first, second]
  rfl

end Analyzer
end WildcardDiff
