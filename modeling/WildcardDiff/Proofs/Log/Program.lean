import WildcardDiff.Log.Channel
import WildcardDiff.Proofs.Log.Analysis

/-!
# Programs that log

A program opens scopes, logs messages, runs analyses, raises exceptions and recovers
from them, in any nesting. All loggers share the open scopes. A scope is closed however
its block is left, so that after a program, and after every part of it, the same scopes
are open as before. The calls of a program can therefore be read off its text: the
scopes around a call are those of the blocks around it, and every record of the program
is that of a call.
-/

namespace WildcardDiff
namespace Log

/-- Programs of scopes, log messages, analyses and exceptions. -/
inductive Program
  | skip
  | seq (first second : Program)
  /-- Log a message with a logger of the given name, as it is configured at the time. -/
  | log (loggers : Loggers) (name : String) (level : Level) (message : Text)
      (own : Context)
  | logFailure (loggers : Loggers) (name : String) (message : Text) (failure : Failure)
      (own : Context)
  | analyze (analyzer : Analyzer) (expected actual : Option Text)
  /-- Run a block in a scope, which any logger may open. -/
  | scope (context : Context) (block : Program)
  | raise
  /-- Run a block, and a handler if an exception leaves the block. -/
  | recover (block handler : Program)

/-- Whether a program was left by an exception, and the journal that it left. -/
structure Run where
  raised : Bool
  journal : Journal

/-- The run of a call that logs, if it is possible; else it raises an exception. -/
def Run.ofCall (journal : Journal) (logged : Option Journal) : Run :=
  match logged with
  | some after => ⟨false, after⟩
  | none => ⟨true, journal⟩

/-- The call, if the channel lets it through to the collector. -/
def Channel.calls (channel : Channel) (call : Call) : List Call :=
  if channel.attached ∧ call.level.reaches channel.threshold then [call] else []

namespace Program

/-- Run a program. -/
def run : Program → Journal → Run
  | skip, journal => ⟨false, journal⟩
  | seq first second, journal =>
      let before := first.run journal
      if before.raised then before else second.run before.journal
  | log loggers name level message own, journal =>
      .ofCall journal (loggers.log? name journal level message own)
  | logFailure loggers name message failure own, journal =>
      .ofCall journal (loggers.logFailure? name journal message failure own)
  | analyze analyzer expected actual, journal =>
      let (result, after) := (analyzer.analyze expected actual).run.run journal
      ⟨!result.isOk, after⟩
  | scope context block, journal =>
      match journal.enter? context with
      | some entered =>
          let inside := block.run entered
          ⟨inside.raised, inside.journal.leave⟩
      | none => ⟨true, journal⟩
  | raise, journal => ⟨true, journal⟩
  | recover block handler, journal =>
      let inside := block.run journal
      if inside.raised then handler.run inside.journal else inside

/-- Whether an exception leaves a program. -/
def raises : Program → Bool
  | skip => false
  | seq first second => first.raises || second.raises
  | log _ _ _ _ own => own.usesAny reservedInMessage
  | logFailure _ _ _ _ own => own.usesAny reservedInFailure
  | analyze analyzer expected actual => !(analyzer.result expected actual).isOk
  | scope context block => context.usesAny reservedInScope || block.raises
  | raise => true
  | recover block handler => block.raises && handler.raises

/-- The calls of a program in the scopes around it, by which its records are made. -/
def calls : Program → (enclosing : List Context) → List Call
  | skip, _ => []
  | seq first second, enclosing =>
      first.calls enclosing ++ if first.raises then [] else second.calls enclosing
  | log loggers name level message own, enclosing =>
      if own.usesAny reservedInMessage then []
      else (loggers.channel name).calls ⟨enclosing, level, message, own⟩
  | logFailure loggers name message failure own, enclosing =>
      if own.usesAny reservedInFailure then []
      else (loggers.channel name).calls ⟨enclosing, .error, message, failure.describe own⟩
  | analyze analyzer expected actual, enclosing =>
      analyzer.analysisCalls expected actual enclosing
  | scope context block, enclosing =>
      if context.usesAny reservedInScope then [] else block.calls (enclosing ++ [context])
  | raise, _ => []
  | recover block handler, enclosing =>
      block.calls enclosing ++ if block.raises then handler.calls enclosing else []

theorem run_scope (context : Context) (block : Program) (journal : Journal) :
    (scope context block).run journal =
      if context.usesAny reservedInScope then ⟨true, journal⟩
      else
        let inside := block.run (journal.enter context)
        ⟨inside.raised, inside.journal.leave⟩ := by
  rw [run, Journal.enter?]
  cases context.usesAny reservedInScope <;> rfl

/-- Whether an exception leaves a program does not depend on what was logged before. -/
theorem raised_run (program : Program) (journal : Journal) :
    (program.run journal).raised = program.raises := by
  induction program generalizing journal with
  | skip => rfl
  | seq first second inductionFirst inductionSecond =>
      dsimp only [run, raises]
      rw [inductionFirst]
      cases left : first.raises with
      | true => exact (inductionFirst journal).trans left
      | false => exact inductionSecond _
  | log loggers name level message own =>
      dsimp only [run, raises, Loggers.log?]
      cases own.usesAny reservedInMessage <;> rfl
  | logFailure loggers name message failure own =>
      dsimp only [run, raises, Loggers.logFailure?]
      cases own.usesAny reservedInFailure <;> rfl
  | analyze analyzer expected actual =>
      exact congrArg (fun result => !result.isOk)
        (analyzer.gives_analyze expected actual journal)
  | scope context block inductionHypothesis =>
      rw [run_scope, raises]
      cases context.usesAny reservedInScope with
      | true => rfl
      | false => exact inductionHypothesis _
  | raise => rfl
  | recover block handler inductionBlock inductionHandler =>
      dsimp only [run, raises]
      rw [inductionBlock]
      cases left : block.raises with
      | true => exact inductionHandler _
      | false => exact (inductionBlock journal).trans left

/-- What is recorded is a call, if the channel lets it through. -/
theorem adds_record
    (loggers : Loggers)
    (name : String)
    (journal : Journal)
    (level : Level)
    (message : Text)
    (own : Context) :
    journal.Adds (loggers.record name journal level message own)
      ((loggers.channel name).calls ⟨journal.scopes, level, message, own⟩) := by
  dsimp only [Loggers.record, Channel.calls]
  cases (loggers.channel name).attached with
  | false => simpa using Journal.Adds.refl journal
  | true =>
      simpa using journal.adds_log (loggers.channel name).threshold level message own

theorem adds_run (program : Program) (journal : Journal) :
    journal.Adds (program.run journal).journal (program.calls journal.scopes) := by
  induction program generalizing journal with
  | skip => exact .refl journal
  | seq first second inductionFirst inductionSecond =>
      have before := inductionFirst journal
      dsimp only [run, calls]
      rw [raised_run]
      cases first.raises with
      | true => simpa using before
      | false => exact before.trans (inductionSecond _)
  | log loggers name level message own =>
      dsimp only [run, calls, Loggers.log?]
      split
      · exact .refl journal
      · exact adds_record loggers name journal level message own
  | logFailure loggers name message failure own =>
      dsimp only [run, calls, Loggers.logFailure?]
      split
      · exact .refl journal
      · exact adds_record loggers name journal .error message (failure.describe own)
  | analyze analyzer expected actual =>
      exact analyzer.makes_analyze expected actual journal
  | scope context block inductionHypothesis =>
      rw [run_scope, calls]
      split
      · exact .refl journal
      · exact (inductionHypothesis (journal.enter context)).leave
  | raise => exact .refl journal
  | recover block handler inductionBlock inductionHandler =>
      have before := inductionBlock journal
      dsimp only [run, calls]
      rw [raised_run]
      cases block.raises with
      | false => simpa using before
      | true => exact before.trans (inductionHandler _)

/-- A program, run while any scopes are open, leaves exactly these scopes open, whether
it ends or an exception leaves it, and adds a record for each of its calls. The context
of a record merges those of the blocks around the call, from the outermost to the
innermost, after the scopes that were open before, and then what the call adds itself.
Every block and every analysis is a program of its own. -/
theorem run_tells_calls (program : Program) (journal : Journal) :
    (program.run journal).raised = program.raises ∧
      (program.run journal).journal.scopes = journal.scopes ∧
      ∃ added, (program.run journal).journal.records = journal.records ++ added ∧
        List.Forall₂ Call.Tells (program.calls journal.scopes) added := by
  have ends := adds_run program journal
  exact ⟨raised_run program journal, ends.scopes, ends.records⟩

/-- The innermost value counts and the name keeps its place, and the exception closes both
scopes. -/
example :
    (scope [("file", .text "expected.txt"), ("line", .int 1)]
      (scope [("line", .int 2)]
        (seq
          (log (Loggers.empty.create "test" .info true).1 "test" .info "Nested".toList
            [("line", .int 3)])
          raise))).run .empty =
      ⟨true, [], [⟨.info, "Nested | file=expected.txt line=3".toList,
        [("file", .text "expected.txt"), ("line", .int 3)]⟩]⟩ := by
  rfl

end Program
end Log
end WildcardDiff
