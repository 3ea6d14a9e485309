import WildcardDiff.Proofs.Diff.Outcome

/-!
# The comparison of all lines

A comparison walks both texts line by line. It goes on as long as every expected line
that has a counterpart is a pattern, and fails at the first one that is none. An
expected line without a counterpart is never read as a pattern, so whether a line that
is none is found out depends on the number of actual lines.
-/

namespace WildcardDiff
namespace Analyzer

variable {analyzer : Analyzer} {number : Nat} {expecteds actuals : List Text}

/-- The diff of some lines, counted from a number, with the lines that only one text has
after the others. -/
inductive Compares (analyzer : Analyzer) : Nat → List Text → List Text → Diff → Prop
  | done {number : Nat} : Compares analyzer number [] [] []
  | extra {number : Nat} {actual : Text} {actuals : List Text} {rest : Diff} :
      Compares analyzer (number + 1) [] actuals rest →
      Compares analyzer number [] (actual :: actuals) (extraLine number actual :: rest)
  | missing {number : Nat} {expected : Text} {expecteds : List Text} {rest : Diff} :
      Compares analyzer (number + 1) expecteds [] rest →
      Compares analyzer number (expected :: expecteds) []
        (missingLine number expected :: rest)
  | paired {number : Nat} {expected actual : Text} {expecteds actuals : List Text}
      {pattern : Pattern} {rest : Diff} :
      analyzer.patternOf expected = .ok pattern →
      Compares analyzer (number + 1) expecteds actuals rest →
      Compares analyzer number (expected :: expecteds) (actual :: actuals)
        (analyzer.lineOutcome number pattern expected actual :: rest)

/-- The first expected line that has a counterpart and is no pattern fails in the given
way. -/
inductive Refuses (analyzer : Analyzer) : List Text → List Text → PatternError → Prop
  | here {expected actual : Text} {expecteds actuals : List Text} {error : PatternError} :
      analyzer.patternOf expected = .error error →
      Refuses analyzer (expected :: expecteds) (actual :: actuals) error
  | later {expected actual : Text} {expecteds actuals : List Text}
      {error : PatternError} :
      analyzer.Accepts expected →
      Refuses analyzer expecteds actuals error →
      Refuses analyzer (expected :: expecteds) (actual :: actuals) error

theorem compareFrom_nil_cons {actual : Text} :
    analyzer.compareFrom number [] (actual :: actuals) = do
      let rest ← analyzer.compareFrom (number + 1) [] actuals
      return extraLine number actual :: rest := by
  have shifted :
      (fun index actual => extraLine ((number + (index + 1) : Nat) : Int) actual) =
        fun index actual => extraLine ((number + 1 + index : Nat) : Int) actual := by
    funext index actual
    rw [Nat.add_right_comm, Nat.add_assoc]
  rw [compareFrom, compareFrom, List.mapIdx_cons, shifted, pure_bind, Nat.add_zero]

/-- Every two lists of lines either have a diff or a first refused line. -/
theorem compares_or_refuses
    (analyzer : Analyzer)
    (number : Nat)
    (expecteds actuals : List Text) :
    (∃ diff, analyzer.Compares number expecteds actuals diff) ∨
      ∃ error, analyzer.Refuses expecteds actuals error := by
  induction expecteds generalizing number actuals with
  | nil =>
      left
      induction actuals generalizing number with
      | nil => exact ⟨[], .done⟩
      | cons actual actuals inductionHypothesis =>
          obtain ⟨rest, compares⟩ := inductionHypothesis (number + 1)
          exact ⟨_, compares.extra⟩
  | cons expected expecteds inductionHypothesis =>
      cases actuals with
      | nil =>
          rcases inductionHypothesis (number + 1) []
            with ⟨rest, compares⟩ | ⟨error, refuses⟩
          · exact .inl ⟨_, compares.missing⟩
          · cases refuses
      | cons actual actuals =>
          cases accepted : analyzer.patternOf expected with
          | error error => exact .inr ⟨error, .here accepted⟩
          | ok pattern =>
              rcases inductionHypothesis (number + 1) actuals with
                ⟨rest, compares⟩ | ⟨error, refuses⟩
              · exact .inl ⟨_, compares.paired accepted⟩
              · exact .inr ⟨error, refuses.later ⟨pattern, accepted⟩⟩

theorem Compares.gives
    {diff : Diff}
    (compares : analyzer.Compares number expecteds actuals diff) :
    (analyzer.compareFrom number expecteds actuals).Gives (.ok diff) := by
  induction compares with
  | done => exact Logged.gives_pure _
  | extra _ inductionHypothesis =>
      rw [compareFrom_nil_cons]
      exact inductionHypothesis.bind_ok (Logged.gives_pure _)
  | missing _ inductionHypothesis =>
      exact inductionHypothesis.bind_ok (Logged.gives_pure _)
  | paired accepted _ inductionHypothesis =>
      refine (gives_inScope _ (gives_matchLine accepted)).bind_ok ?_
      exact inductionHypothesis.bind_ok (Logged.gives_pure _)

/-- What holds of extra lines, of missing ones and of the outcomes of pairs holds of
every line of a diff. -/
theorem Compares.forall_mem
    {diff : Diff}
    {property : LineOutcome → Prop}
    (compares : analyzer.Compares number expecteds actuals diff)
    (extra : ∀ number actual, property (extraLine number actual))
    (missing : ∀ number expected, property (missingLine number expected))
    (paired : ∀ number pattern expected actual,
      property (analyzer.lineOutcome number pattern expected actual)) :
    ∀ line ∈ diff, property line := by
  induction compares with
  | done => exact List.forall_mem_nil property
  | extra _ inductionHypothesis =>
      exact List.forall_mem_cons.mpr ⟨extra _ _, inductionHypothesis⟩
  | missing _ inductionHypothesis =>
      exact List.forall_mem_cons.mpr ⟨missing _ _, inductionHypothesis⟩
  | paired _ _ inductionHypothesis =>
      exact List.forall_mem_cons.mpr ⟨paired _ _ _ _, inductionHypothesis⟩

theorem Refuses.gives
    {error : PatternError}
    (refuses : analyzer.Refuses expecteds actuals error)
    (number : Nat) :
    (analyzer.compareFrom number expecteds actuals).Gives (.error error) := by
  induction refuses generalizing number with
  | here refused => exact (gives_inScope _ (gives_matchLine_error refused)).bind_error
  | later accepted _ inductionHypothesis =>
      obtain ⟨pattern, accepted⟩ := accepted
      refine (gives_inScope _ (gives_matchLine accepted)).bind_ok ?_
      exact (inductionHypothesis (number + 1)).bind_error

theorem Refuses.isMalformed
    {error : PatternError}
    (refuses : analyzer.Refuses expecteds actuals error) :
    error.isMalformed = true := by
  induction refuses with
  | here refused => exact isMalformed_of_patternOf refused
  | later _ _ inductionHypothesis => exact inductionHypothesis

/-- Only the expected lines that have a counterpart can be refused. -/
theorem exists_refuses_iff :
    (∃ error, analyzer.Refuses expecteds actuals error) ↔
      ∃ line ∈ expecteds.take actuals.length, ¬analyzer.Accepts line := by
  induction expecteds generalizing actuals with
  | nil =>
      constructor
      · rintro ⟨error, refuses⟩
        cases refuses
      · simp
  | cons expected expecteds inductionHypothesis =>
      cases actuals with
      | nil =>
          constructor
          · rintro ⟨error, refuses⟩
            cases refuses
          · simp
      | cons actual actuals =>
          simp only [List.length_cons, List.take_succ_cons, List.mem_cons,
            exists_eq_or_imp]
          rw [not_accepts_iff, ← inductionHypothesis]
          constructor
          · rintro ⟨error, refuses⟩
            cases refuses with
            | here refused => exact .inl ⟨error, refused⟩
            | later accepted refuses => exact .inr ⟨error, refuses⟩
          · rintro (⟨error, refused⟩ | ⟨error, refuses⟩)
            · exact ⟨error, .here refused⟩
            · cases accepted : analyzer.patternOf expected with
              | error first => exact ⟨first, .here accepted⟩
              | ok pattern => exact ⟨error, refuses.later ⟨pattern, accepted⟩⟩

/-! ## The analysis of two texts -/

variable {expected actual : Option Text} {journal : Log.Journal}

theorem Compares.gives_analyze
    {diff : Diff}
    (compares : analyzer.Compares 1 (Lines.ofText? expected)
      (Lines.ofText? actual) diff) :
    (analyzer.analyze expected actual).Gives (.ok diff) :=
  gives_log.bind_ok (compares.gives.bind_ok (gives_log.bind_ok (Logged.gives_pure diff)))

theorem Refuses.gives_analyze
    {error : PatternError}
    (refuses : analyzer.Refuses (Lines.ofText? expected) (Lines.ofText? actual) error) :
    (analyzer.analyze expected actual).Gives (.error error) :=
  gives_log.bind_ok (refuses.gives 1).bind_error

/-- An analysis either succeeds with the diff of the lines or fails at a refused line. -/
theorem outcome_analyze_cases
    (analyzer : Analyzer)
    (expected actual : Option Text)
    (journal : Log.Journal) :
    (∃ diff, (analyzer.analyze expected actual).outcome journal = .ok diff ∧
        analyzer.Compares 1 (Lines.ofText? expected) (Lines.ofText? actual) diff) ∨
      ∃ error, (analyzer.analyze expected actual).outcome journal = .error error ∧
        analyzer.Refuses (Lines.ofText? expected) (Lines.ofText? actual) error := by
  rcases analyzer.compares_or_refuses 1 (Lines.ofText? expected)
    (Lines.ofText? actual) with
    ⟨diff, compares⟩ | ⟨error, refuses⟩
  · exact .inl ⟨diff, compares.gives_analyze journal, compares⟩
  · exact .inr ⟨error, refuses.gives_analyze journal, refuses⟩

/-- An analysis succeeds with the diff of the lines of both texts. -/
theorem outcome_analyze_eq_ok_iff {diff : Diff} :
    (analyzer.analyze expected actual).outcome journal = .ok diff ↔
      analyzer.Compares 1 (Lines.ofText? expected) (Lines.ofText? actual) diff := by
  constructor
  · intro came
    rcases outcome_analyze_cases analyzer expected actual journal with
      ⟨found, succeeded, compares⟩ | ⟨error, failed, -⟩
    · obtain rfl := Except.ok.inj (came.symm.trans succeeded)
      exact compares
    · cases came.symm.trans failed
  · intro compares
    exact compares.gives_analyze journal

/-- An analysis fails with the error of the first refused line. -/
theorem outcome_analyze_eq_error_iff {error : PatternError} :
    (analyzer.analyze expected actual).outcome journal = .error error ↔
      analyzer.Refuses (Lines.ofText? expected) (Lines.ofText? actual) error := by
  constructor
  · intro came
    rcases outcome_analyze_cases analyzer expected actual journal with
      ⟨found, succeeded, -⟩ | ⟨first, failed, refuses⟩
    · cases came.symm.trans succeeded
    · obtain rfl := Except.error.inj (came.symm.trans failed)
      exact refuses
  · intro refuses
    exact refuses.gives_analyze journal

/-- An analysis says that a line is no pattern exactly when an expected line that has a
counterpart is none. The lines that nothing comes for are not looked at. -/
theorem analyze_refuses_iff
    (analyzer : Analyzer)
    (expected actual : Option Text)
    (journal : Log.Journal) :
    (∃ error, (analyzer.analyze expected actual).outcome journal = .error error ∧
      error.isMalformed = true) ↔
      ∃ line ∈ (Lines.ofText? expected).take (Lines.ofText? actual).length,
        ¬analyzer.Accepts line := by
  rw [← exists_refuses_iff]
  constructor
  · rintro ⟨error, failed, -⟩
    exact ⟨error, outcome_analyze_eq_error_iff.mp failed⟩
  · rintro ⟨error, refuses⟩
    exact ⟨error, outcome_analyze_eq_error_iff.mpr refuses, refuses.isMalformed⟩

/-- The range of the only expected line runs downwards, yet nothing is refused if no
actual line comes. -/
theorem analyze_passes_missing_line :
    ¬((∃ error, (({} : Analyzer).analyze (some "[z-a]".toList) (some [])).outcome .empty =
          .error error ∧ error.isMalformed = true) ↔
        ∃ line ∈ Lines.ofText? (some "[z-a]".toList), ¬({} : Analyzer).Accepts line) := by
  intro claimed
  have refused : ¬({} : Analyzer).Accepts "[z-a]".toList :=
    not_accepts_iff.mpr ⟨.unreadable "[z-a]".toList, rfl⟩
  obtain ⟨error, failed, -⟩ := claimed.mpr ⟨"[z-a]".toList, by decide, refused⟩
  have succeeded :
    (({} : Analyzer).analyze (some "[z-a]".toList) (some [])).outcome .empty =
      .ok [missingLine 1 "[z-a]".toList] := rfl
  rw [succeeded] at failed
  cases failed

end Analyzer
end WildcardDiff
