import WildcardDiff.Diff.Analyzer

/-!
# Outcomes of logged computations

What an analysis comes to does not depend on what was logged before it, so a computation
that logs has an outcome of its own: a value or the failure of an expected line. The
comparison of one line fails when the line is not a pattern. Else its outcome is a line
that matches when the pattern matches the actual text.
-/

namespace WildcardDiff

namespace Logged

variable {α β : Type} {action : Logged α} {next : α → Logged β}

/-- What the computation comes to when it starts with a journal. -/
def outcome (action : Logged α) (journal : Log.Journal) : Except PatternError α :=
  (action.run.run journal).1

/-- The computation comes to the outcome, whatever was logged and whichever scopes are
open. -/
def Gives (action : Logged α) (outcome : Except PatternError α) : Prop :=
  ∀ journal, action.outcome journal = outcome

theorem gives_pure (value : α) : (pure value : Logged α).Gives (.ok value) := by
  intro journal
  rfl

theorem gives_lift
    {computed outcome : Except PatternError α}
    (comes : computed = outcome) :
    (liftM computed : Logged α).Gives outcome := by
  intro journal
  exact comes

/-- After a value, the rest of the computation goes on with the journal that is left. -/
theorem run_bind_of_ok
    {journal : Log.Journal}
    {value : α}
    (came : action.outcome journal = .ok value) :
    (action >>= next).run.run journal =
      (next value).run.run (action.run.run journal).2 := by
  unfold Logged.outcome at came
  rcases ran : action.run.run journal with ⟨result, after⟩
  rw [ran] at came
  obtain rfl : result = .ok value := came
  rw [ExceptT.run_bind, StateT.run_bind, ran]
  rfl

/-- After a failure there is no rest. -/
theorem run_bind_of_error
    {journal : Log.Journal}
    {error : PatternError}
    (came : action.outcome journal = .error error) :
    (action >>= next).run.run journal = (.error error, (action.run.run journal).2) := by
  unfold Logged.outcome at came
  rcases ran : action.run.run journal with ⟨result, after⟩
  rw [ran] at came
  obtain rfl : result = .error error := came
  rw [ExceptT.run_bind, StateT.run_bind, ran]
  rfl

theorem Gives.bind_ok
    {value : α}
    {outcome : Except PatternError β}
    (first : action.Gives (.ok value))
    (rest : (next value).Gives outcome) :
    (action >>= next).Gives outcome := by
  intro journal
  unfold Logged.outcome
  rw [run_bind_of_ok (first journal)]
  exact rest _

theorem Gives.bind_error
    {error : PatternError}
    (first : action.Gives (.error error)) :
    (action >>= next).Gives (.error error) := by
  intro journal
  unfold Logged.outcome
  rw [run_bind_of_error (first journal)]

end Logged

/-- Whether the failure says that a text is no wildcard pattern. The other failures are
about values of a wrong kind. -/
def PatternError.isMalformed : PatternError → Bool
  | .escapeNotSingle _ _ => true
  | .escapedOrdinary _ _ => true
  | .unreadable _ => true
  | .notText _ => false
  | .unknownOptions => false

theorem Pattern.isMalformed_of_escapeOfValue
    {text : Text}
    {escape : Value}
    {error : PatternError}
    (failed : escapeOfValue text escape = .error error) :
    error.isMalformed = true := by
  unfold escapeOfValue at failed
  split at failed
  · cases failed
  · split at failed
    · cases failed
    · cases failed
      rfl
  · split at failed
    · cases failed
    · cases failed
      rfl
  · cases failed
    rfl

theorem Pattern.isMalformed_of_build
    {text : Text}
    {escape : Option Char}
    {options : Options}
    {error : PatternError}
    (failed : build text escape options = .error error) :
    error.isMalformed = true := by
  unfold build at failed
  split at failed
  · split at failed
    · cases failed
    · cases failed
      rfl
  · cases failed
    rfl

/-- A text that is not accepted as a pattern, with options that are a number, is no
pattern. -/
theorem Pattern.isMalformed_of_ofValues
    {content : String}
    {escape : Value}
    {bits : Int}
    {error : PatternError}
    (failed : ofValues (.text content) escape (.int bits) = .error error) :
    error.isMalformed = true := by
  unfold ofValues at failed
  dsimp only at failed
  cases chosen : escapeOfValue content.toList escape with
  | error refusal =>
      rw [chosen] at failed
      obtain rfl : refusal = error := Except.error.inj failed
      exact isMalformed_of_escapeOfValue chosen
  | ok character =>
      rw [chosen] at failed
      change
        (if !escapesPlaced character content.toList then
          .error (.escapedOrdinary character content.toList)
        else
          build content.toList character (Options.ofInt bits)) = Except.error error
            at failed
      split at failed
      · obtain rfl := Except.error.inj failed
        rfl
      · exact isMalformed_of_build failed

namespace Analyzer

variable {analyzer : Analyzer} {pattern : Pattern} {expected actual : Text} {number : Int}

/-! ## Logging and scopes -/

theorem gives_log {level : Log.Level} {message : String} {context : Log.Context} :
    (analyzer.log level message context).Gives (.ok ()) := by
  intro journal
  rfl

theorem gives_inScope
    {α : Type}
    {action : Logged α}
    {outcome : Except PatternError α}
    (context : Log.Context)
    (gives : action.Gives outcome) :
    (inScope context action).Gives outcome := by
  intro journal
  exact gives (journal.enter context)

/-! ## Lines that are patterns -/

/-- The pattern that an expected line is. -/
def patternOf (analyzer : Analyzer) (line : Text) : Except PatternError Pattern :=
  Pattern.ofValues (.ofText line) analyzer.escape (.int analyzer.options.bits)

/-- An expected line is a pattern. -/
def Accepts (analyzer : Analyzer) (line : Text) : Prop :=
  ∃ pattern, analyzer.patternOf line = .ok pattern

/-- An expected line is a pattern that matches an actual line. -/
def Matches (analyzer : Analyzer) (expected actual : Text) : Prop :=
  ∃ pattern, analyzer.patternOf expected = .ok pattern ∧ pattern.isMatch actual = true

theorem not_accepts_iff {line : Text} :
    ¬analyzer.Accepts line ↔ ∃ error, analyzer.patternOf line = .error error := by
  unfold Accepts
  cases analyzer.patternOf line <;> simp

theorem matches_iff (accepted : analyzer.patternOf expected = .ok pattern) :
    analyzer.Matches expected actual ↔ pattern.isMatch actual = true := by
  simp [Matches, accepted]

/-- A line that is not a pattern is refused for its text or its escape character: its
kind and the options are always right. -/
theorem isMalformed_of_patternOf
    {line : Text}
    {error : PatternError}
    (failed : analyzer.patternOf line = .error error) :
    error.isMalformed = true :=
  Pattern.isMalformed_of_ofValues failed

/-! ## The comparison of one line -/

/-- What the wildcards took of a line that matched, or placeholders. -/
def captured (analyzer : Analyzer) (pattern : Pattern) (actual : Text) : List Value :=
  match analyzer.extract pattern actual with
  | .captured groups => groups.map Value.ofText
  | _ => List.replicate pattern.wildcardCount analyzer.placeholder

/-- The outcome of an actual line for an expected one that is a pattern. -/
def lineOutcome
    (analyzer : Analyzer)
    (number : Int)
    (pattern : Pattern)
    (expected actual : Text) : LineOutcome :=
  if pattern.isMatch actual then
    ⟨number, some expected, some actual, true, analyzer.captured pattern actual,
      none, none⟩
  else
    ⟨number, some expected, some actual, false, [],
      some MismatchReason.patternMismatch.message,
      if analyzer.hints.isTruthy then Hint.message? pattern actual else none⟩

theorem gives_captures (analyzer : Analyzer) (pattern : Pattern) (actual : Text) :
    (analyzer.captures pattern actual).Gives
      (.ok (analyzer.captured pattern actual)) := by
  unfold captures captured
  cases analyzer.extract pattern actual with
  | captured groups => exact Logged.gives_pure _
  | notCompiled message =>
      exact gives_log.bind_ok (gives_log.bind_ok (Logged.gives_pure _))
  | noMatch => exact gives_log.bind_ok (Logged.gives_pure _)

/-- The comparison with a line that is a pattern succeeds. -/
theorem gives_matchLine
    (accepted : analyzer.patternOf expected = .ok pattern) :
    (analyzer.matchLine number expected actual).Gives
      (.ok (analyzer.lineOutcome number pattern expected actual)) := by
  refine (Logged.gives_lift accepted).bind_ok ?_
  unfold lineOutcome
  split
  · exact (gives_captures analyzer pattern actual).bind_ok (Logged.gives_pure _)
  · exact Logged.gives_pure _

/-- The comparison with a line that is not a pattern fails for the reason that it is
none. -/
theorem gives_matchLine_error
    {error : PatternError}
    (refused : analyzer.patternOf expected = .error error) :
    (analyzer.matchLine number expected actual).Gives (.error error) :=
  (Logged.gives_lift refused).bind_error

@[simp] theorem number_lineOutcome :
    (analyzer.lineOutcome number pattern expected actual).number = number := by
  unfold lineOutcome
  split <;> rfl

@[simp] theorem expected_lineOutcome :
    (analyzer.lineOutcome number pattern expected actual).expected = some expected := by
  unfold lineOutcome
  split <;> rfl

@[simp] theorem actual_lineOutcome :
    (analyzer.lineOutcome number pattern expected actual).actual = some actual := by
  unfold lineOutcome
  split <;> rfl

@[simp] theorem isMatch_lineOutcome :
    (analyzer.lineOutcome number pattern expected actual).isMatch =
      pattern.isMatch actual := by
  unfold lineOutcome
  split
  · rename_i holds
    exact holds.symm
  · rename_i fails
    exact (Bool.eq_false_iff.mpr fails).symm

end Analyzer
end WildcardDiff
