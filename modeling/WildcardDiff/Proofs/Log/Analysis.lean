import WildcardDiff.Proofs.Diff.Comparison
import WildcardDiff.Proofs.Log.Context

/-!
# What an analysis logs

An analysis logs when it begins and when it ends, and for every line that matches but
whose captures are not recovered. The comparison of a line makes its calls in a scope of
its own, and at a line that is refused the calls end. Whatever the analysis comes to, it
leaves the scopes open that were open before.
-/

namespace WildcardDiff

open Log (Call Context)

namespace Logged

variable {α β : Type} {action : Logged α} {next : α → Logged β}
  {calls more : List Context → List Call}

/-- The computation makes the calls, which depend on the scopes around it alone. -/
def Makes (action : Logged α) (calls : List Context → List Call) : Prop :=
  ∀ journal : Log.Journal, journal.Adds (action.run.run journal).2 (calls journal.scopes)

theorem makes_pure (value : α) : (pure value : Logged α).Makes fun _ => [] :=
  Log.Journal.Adds.refl

theorem makes_lift (computed : Except PatternError α) :
    (liftM computed : Logged α).Makes fun _ => [] :=
  Log.Journal.Adds.refl

theorem Makes.bind_ok
    {value : α}
    (first : action.Makes calls)
    (gives : action.Gives (.ok value))
    (second : (next value).Makes more) :
    (action >>= next).Makes fun enclosing => calls enclosing ++ more enclosing := by
  intro journal
  rw [run_bind_of_ok (gives journal)]
  exact (first journal).trans (second _)

theorem Makes.lift_bind
    {computed : Except PatternError α}
    {value : α}
    (computes : computed = .ok value)
    (second : (next value).Makes more) :
    ((liftM computed : Logged α) >>= next).Makes more :=
  (makes_lift computed).bind_ok (gives_lift computes) second

theorem Makes.bind_error
    {error : PatternError}
    (first : action.Makes calls)
    (gives : action.Gives (.error error)) :
    (action >>= next).Makes calls := by
  intro journal
  rw [run_bind_of_error (gives journal)]
  exact first journal

/-- What is done with the value afterwards makes no calls. -/
theorem Makes.bind_pure {change : α → β} (first : action.Makes calls) :
    (action >>= fun value => pure (change value)).Makes calls := by
  intro journal
  cases came : action.outcome journal with
  | ok value =>
      rw [run_bind_of_ok came]
      exact first journal
  | error error =>
      rw [run_bind_of_error came]
      exact first journal

end Logged

namespace Analyzer

variable {analyzer : Analyzer} {pattern : Pattern} {expected actual : Text}
  {calls : List Context → List Call}

/-- The call that a message makes, if the threshold of the analyzer lets it. -/
def logCalls
    (analyzer : Analyzer)
    (level : Log.Level)
    (message : String)
    (own : Context)
    (enclosing : List Context) : List Call :=
  if level.reaches analyzer.threshold then [⟨enclosing, level, message.toList, own⟩]
  else []

/-- The calls on the captures of a line that matches. -/
def captureCalls
    (analyzer : Analyzer)
    (pattern : Pattern)
    (actual : Text)
    (enclosing : List Context) : List Call :=
  let shownPattern := ("pattern", Value.ofText pattern.text)
  let fallback := analyzer.logCalls .warning "Falling back to placeholder captures"
    [shownPattern, ("wildcards", .int pattern.wildcardCount)] enclosing
  match analyzer.extract pattern actual with
  | .captured _ => []
  | .notCompiled message =>
      analyzer.logCalls .warning "Capture regex could not be compiled"
        [shownPattern, ("error", .ofText message)] enclosing ++ fallback
  | .noMatch => fallback

/-- The calls on an actual line for an expected one that is a pattern. -/
def lineCalls
    (analyzer : Analyzer)
    (pattern : Pattern)
    (actual : Text)
    (enclosing : List Context) : List Call :=
  if pattern.isMatch actual then analyzer.captureCalls pattern actual enclosing else []

/-- The calls on the lines that both texts have, up to the first one that is refused. -/
def comparisonCalls (analyzer : Analyzer) :
    (number : Nat) -> (expected actual : List Text) ->
      (enclosing : List Context) -> List Call
  | number, expected :: expecteds, actual :: actuals => fun enclosing =>
      match analyzer.patternOf expected with
      | .ok pattern =>
          analyzer.lineCalls pattern actual (enclosing ++ [[("line", .int number)]]) ++
            analyzer.comparisonCalls (number + 1) expecteds actuals enclosing
      | .error _ => []
  | _, _, _ => fun _ => []

/-- What an analysis comes to. -/
def result
    (analyzer : Analyzer)
    (expected actual : Option Text) : Except PatternError Diff :=
  (analyzer.analyze expected actual).outcome .empty

/-- The calls of an analysis. -/
def analysisCalls
    (analyzer : Analyzer)
    (expected actual : Option Text)
    (enclosing : List Context) : List Call :=
  let expectedLines := Lines.ofText? expected
  let actualLines := Lines.ofText? actual
  analyzer.logCalls .debug "Analyzing diff"
      [("expected_lines", .int expectedLines.length),
        ("actual_lines", .int actualLines.length)] enclosing ++
    (analyzer.comparisonCalls 1 expectedLines actualLines enclosing ++
      match analyzer.result expected actual with
      | .ok diff =>
          analyzer.logCalls .debug "Diff analyzed"
            [("overall_match", .bool diff.overallMatch),
              ("matched", .int diff.matchedCount),
              ("extra", .int diff.extraCount), ("missing", .int diff.missingCount)]
                enclosing
      | .error _ => [])

theorem Compares.result_eq
    {expected actual : Option Text}
    {diff : Diff}
    (compares : analyzer.Compares 1 (Lines.ofText? expected)
      (Lines.ofText? actual) diff) :
    analyzer.result expected actual = .ok diff :=
  compares.gives_analyze .empty

theorem Refuses.result_eq
    {expected actual : Option Text}
    {error : PatternError}
    (refuses : analyzer.Refuses (Lines.ofText? expected) (Lines.ofText? actual) error) :
    analyzer.result expected actual = .error error :=
  refuses.gives_analyze .empty

theorem gives_analyze (analyzer : Analyzer) (expected actual : Option Text) :
    (analyzer.analyze expected actual).Gives (analyzer.result expected actual) := by
  rcases analyzer.compares_or_refuses 1 (Lines.ofText? expected)
    (Lines.ofText? actual) with
    ⟨diff, compares⟩ | ⟨error, refuses⟩
  · rw [compares.result_eq]
    exact compares.gives_analyze
  · rw [refuses.result_eq]
    exact refuses.gives_analyze

theorem makes_log (level : Log.Level) (message : String) (own : Context) :
    (analyzer.log level message own).Makes (analyzer.logCalls level message own) :=
  fun journal => journal.adds_log analyzer.threshold level message.toList own

theorem makes_inScope
    {α : Type}
    {action : Logged α}
    (context : Context)
    (makes : action.Makes calls) :
    (inScope context action).Makes fun enclosing => calls (enclosing ++ [context]) :=
  fun journal => (makes (journal.enter context)).leave

theorem makes_captures (analyzer : Analyzer) (pattern : Pattern) (actual : Text) :
    (analyzer.captures pattern actual).Makes (analyzer.captureCalls pattern actual) := by
  unfold captures captureCalls
  cases analyzer.extract pattern actual with
  | captured groups => exact Logged.makes_pure _
  | notCompiled message =>
      exact (makes_log _ _ _).bind_ok gives_log (makes_log _ _ _).bind_pure
  | noMatch => exact (makes_log _ _ _).bind_pure

theorem makes_matchLine
    {number : Int}
    (accepted : analyzer.patternOf expected = .ok pattern) :
    (analyzer.matchLine number expected actual).Makes
      (analyzer.lineCalls pattern actual) := by
  refine Logged.Makes.lift_bind accepted ?_
  unfold lineCalls
  cases pattern.isMatch actual with
  | true => exact (makes_captures analyzer pattern actual).bind_pure
  | false => exact Logged.makes_pure _

theorem makes_matchLine_error
    {number : Int}
    {error : PatternError}
    (refused : analyzer.patternOf expected = .error error) :
    (analyzer.matchLine number expected actual).Makes fun _ => [] :=
  (Logged.makes_lift _).bind_error (Logged.gives_lift refused)

theorem comparisonCalls_nil (analyzer : Analyzer) (number : Nat) (expecteds : List Text) :
    analyzer.comparisonCalls number expecteds [] = fun _ => [] := by
  cases expecteds <;> rfl

theorem makes_compareFrom
    (analyzer : Analyzer)
    (number : Nat)
    (expecteds actuals : List Text) :
    (analyzer.compareFrom number expecteds actuals).Makes
      (analyzer.comparisonCalls number expecteds actuals) := by
  induction expecteds generalizing number actuals with
  | nil => exact Logged.makes_pure _
  | cons expected expecteds inductionHypothesis =>
      cases actuals with
      | nil =>
          have rest := inductionHypothesis (number + 1) []
          rw [comparisonCalls_nil] at rest ⊢
          exact rest.bind_pure
      | cons actual actuals =>
          have rest := inductionHypothesis (number + 1) actuals
          unfold compareFrom comparisonCalls
          cases read : analyzer.patternOf expected with
          | error error =>
              exact (makes_inScope _ (makes_matchLine_error read)).bind_error
                (gives_inScope _ (gives_matchLine_error read))
          | ok pattern =>
              exact (makes_inScope _ (makes_matchLine read)).bind_ok
                (gives_inScope _ (gives_matchLine read)) rest.bind_pure

/-- An analysis makes its calls, whatever it comes to. -/
theorem makes_analyze (analyzer : Analyzer) (expected actual : Option Text) :
    (analyzer.analyze expected actual).Makes
      (analyzer.analysisCalls expected actual) := by
  refine (makes_log _ _ _).bind_ok gives_log ?_
  have lines :=
    makes_compareFrom analyzer 1 (Lines.ofText? expected) (Lines.ofText? actual)
  rcases analyzer.compares_or_refuses 1 (Lines.ofText? expected)
    (Lines.ofText? actual) with
    ⟨diff, compares⟩ | ⟨error, refuses⟩
  · rw [compares.result_eq]
    exact lines.bind_ok compares.gives (makes_log _ _ _).bind_pure
  · rw [refuses.result_eq]
    simpa only [List.append_nil] using lines.bind_error (refuses.gives 1)

end Analyzer
end WildcardDiff
