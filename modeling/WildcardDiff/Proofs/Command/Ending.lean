import WildcardDiff.Command.Known
import WildcardDiff.Proofs.Command.Failure
import WildcardDiff.Proofs.Command.Invocation
import WildcardDiff.Proofs.Diff.Report

/-!
# How runs end

A run of an invocation ends with a code, zero, one or two, or by a failure that is not
reported. Tasks are built of computations that log and may fail; what each of them comes
to is stated for every log that was written before it.
-/

namespace WildcardDiff
namespace Command

/-! ## Tasks -/

namespace Session

variable {α β : Type} {action : Session α} {next : α → Session β}
  {good : α → Prop} {final : β → Prop} {bad : Failure → Prop}

/-- Whatever was logged before, a computation comes to a value or a failure of the given
kinds. -/
def Ends (action : Session α) (good : α → Prop) (bad : Failure → Prop) : Prop :=
  ∀ journal,
    match (action.run.run journal).1 with
    | .ok value => good value
    | .error failure => bad failure

theorem ends_of_run
    (computed : Log.Journal → Except Failure α)
    (comes : ∀ journal, (action.run.run journal).1 = computed journal)
    (succeeds : ∀ journal value, computed journal = .ok value → good value)
    (fails : ∀ journal failure, computed journal = .error failure → bad failure) :
    action.Ends good bad := by
  intro journal
  rw [comes]
  cases came : computed journal with
  | ok value => exact succeeds journal value came
  | error failure => exact fails journal failure came

theorem ends_pure
    {value : α}
    (holds : good value) :
    (pure value : Session α).Ends good bad := by
  intro journal
  exact holds

theorem ends_throw {failure : Failure} (holds : bad failure) :
    (throw failure : Session α).Ends good bad := by
  intro journal
  exact holds

theorem Ends.bind
    (first : action.Ends good bad)
    (rest : ∀ value, good value → (next value).Ends final bad) :
    (action >>= next).Ends final bad := by
  intro journal
  have came := first journal
  rw [ExceptT.run_bind, StateT.run_bind]
  rcases ran : action.run.run journal with ⟨result, after⟩
  rw [ran] at came
  cases result with
  | ok value => exact rest value came after
  | error failure => exact came

theorem Ends.imp
    {fine : α → Prop}
    {worse : Failure → Prop}
    (ends : action.Ends good bad)
    (succeeds : ∀ value, good value → fine value)
    (fails : ∀ failure, bad failure → worse failure) :
    action.Ends fine worse := by
  intro journal
  have came := ends journal
  split at came
  · exact succeeds _ came
  · exact fails _ came

end Session

namespace Context

variable {context : Context} {surroundings : Surroundings} {invocation : Invocation}
  {bad : Failure → Prop}

theorem ends_log {level : Log.Level} {message : String} {named : Log.Context} :
    (context.log level message named).Ends (fun _ => True) bad := by
  intro journal
  trivial

/-- A pattern is built under the settings, or refused. -/
theorem ends_pattern (context : Context) (operand : Value) :
    (context.pattern operand).Ends
      (fun built =>
        Pattern.ofValues operand (context.layers.choose .escapeCharacter .null)
        (.int context.layers.patternOptions.bits) = .ok built)
      fun failure => ∃ error,
        Pattern.ofValues operand (context.layers.choose .escapeCharacter .null)
          (.int context.layers.patternOptions.bits) = .error error ∧
            .badPattern error = failure :=
  Session.ends_of_run _ (fun _ => rfl) (fun _ _ => mapError_eq_ok_iff.mp)
    fun _ _ => mapError_eq_error_iff.mp

/-- What the reading of a file that has a name comes to. -/
theorem run_readText {name : String} {journal : Log.Journal} :
    ((context.readText (.text name)).run.run journal).1 =
      if name.toList = inputName then
        (context.surroundings.streams.decode context.surroundings.streams.input).elim
          (.error .inputNotDecoded) .ok
      else
        match (context.filesAfter journal).find name.toList with
        | .ok (_, file) => file.text?.elim (.error (.notDecoded name.toList)) .ok
        | .error obstacle => .error (.notRead name.toList obstacle) := by
  unfold readText
  simp only [ExceptT.run_mk, StateT.run]
  split
  · rfl
  · cases (context.filesAfter journal).find name.toList with
    | error obstacle => rfl
    | ok found => rfl

/-- A text that standard output can take is printed, and the code is the one that was
asked for. -/
theorem ends_print (context : Context) (code : Nat) (output : Points) :
    (context.print code output).Ends (fun result => result.code = code) fun failure =>
      context.surroundings.streams.takes output = false ∧
      .notPrinted output = failure := by
  unfold print
  split
  · exact Session.ends_pure rfl
  · rename_i refused
    exact Session.ends_throw ⟨Bool.eq_false_iff.mpr refused, rfl⟩

/-- An analysis comes to a diff of the lines, or finds a line that is no pattern. -/
theorem ends_analyze (analyzer : Analyzer) (expected actual : Option Text) :
    Session.Ends (ExceptT.adapt Failure.badPattern (analyzer.analyze expected actual))
      (analyzer.Compares 1 (Lines.ofText? expected) (Lines.ofText? actual))
      fun failure => ∃ error,
        analyzer.Refuses (Lines.ofText? expected) (Lines.ofText? actual) error ∧
          .badPattern error = failure := by
  refine Session.ends_of_run
    (fun journal =>
      ((analyzer.analyze expected actual).outcome journal).mapError .badPattern)
    (fun _ => rfl) ?_ ?_
  · intro journal diff came
    exact Analyzer.outcome_analyze_eq_ok_iff.mp (mapError_eq_ok_iff.mp came)
  · intro journal failure came
    obtain ⟨error, failed, same⟩ := mapError_eq_error_iff.mp came
    exact ⟨error, Analyzer.outcome_analyze_eq_error_iff.mp failed, same⟩

end Context

/-! ## Runs -/

/-- The code that a run ends with after its arguments were read. -/
def Ending.code? : Ending → Option Nat
  | .code number => some number
  | _ => none

namespace Outcome

end Outcome

theorem Surroundings.run_of_read
    {surroundings : Surroundings}
    {arguments : List Text}
    {invocation : Invocation}
    (understood : surroundings.read arguments = .ok invocation) :
    surroundings.run arguments = surroundings.carryOut invocation := by
  unfold run
  rw [understood]

end Command
end WildcardDiff
