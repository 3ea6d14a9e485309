import WildcardDiff.Diff.Basic
import WildcardDiff.Text.Lines
import WildcardDiff.Diff.Hint
import WildcardDiff.Log.Journal
import WildcardDiff.Regex.Reading

/-!
# Analysis

An analyzer compares an expected text, each line of which is a wildcard pattern, with an
actual text. Lines are paired by position and never realigned. For a line that matches it
recovers what each wildcard took, and for one that does not it may give a hint. It logs
what it does, and the comparison of a line logs in a scope that names the line.
-/

namespace WildcardDiff

/-- What the attempt to recover captures comes to. -/
inductive Extraction
  /-- The capturing expression cannot be compiled. -/
  | notCompiled (message : Text)
  /-- The capturing expression does not match. -/
  | noMatch
  | captured (groups : List Text)
  deriving DecidableEq

/-- Recover what each wildcard of a pattern takes of a line, by the capturing regular
expression. -/
def Pattern.extract (pattern : Pattern) (line : Text) : Extraction :=
  match pattern.compileRegex? true with
  | none => .notCompiled (PatternError.unreadable pattern.text).message
  | some pieces =>
      match Regex.fullMatch pattern.options.ignoreCase pieces line with
      | some groups => .captured groups
      | none => .noMatch

/-- What stands for a capture that cannot be recovered, unless another text is chosen. -/
def defaultPlaceholder : String := "<matched content>"

/-- The escape character of expected lines, unless another one is chosen. -/
def defaultEscape : String := "\\"

/-- How texts are compared. The escape, placeholder and choice of hints are kept as they
were configured, of whatever kind. -/
structure Analyzer where
  escape : Value := .text defaultEscape
  options : Options := .none
  placeholder : Value := .text defaultPlaceholder
  hints : Value := .bool true
  /-- The threshold of the log. -/
  threshold : Log.Level := .warning
  /-- The way in which captures are recovered. -/
  extract : Pattern -> Text -> Extraction := Pattern.extract

/-- Computations that log, and that may fail on an expected line. The log is kept when
they fail. -/
abbrev Logged (α : Type) := ExceptT PatternError (StateM Log.Journal) α

namespace Analyzer

/-- Log a message under the threshold of the analyzer. -/
def log
    (analyzer : Analyzer)
    (level : Log.Level)
    (message : String)
    (context : Log.Context) : Logged Unit :=
  modify fun journal => journal.log analyzer.threshold level message.toList context

/-- Run a computation in a scope, which is closed however the computation ends. -/
def inScope (context : Log.Context) (action : Logged α) : Logged α :=
  ExceptT.mk fun journal =>
    let (outcome, final) := action.run.run (journal.enter context)
    (outcome, final.leave)

/-- What each wildcard took of a line that matched. Where that cannot be recovered, the
placeholder stands for every wildcard. -/
def captures
    (analyzer : Analyzer)
    (pattern : Pattern)
    (actual : Text) : Logged (List Value) := do
  let shownPattern := ("pattern", Value.ofText pattern.text)
  match analyzer.extract pattern actual with
  | .captured groups => return groups.map Value.ofText
  | .notCompiled message =>
      analyzer.log .warning "Capture regex could not be compiled"
        [shownPattern, ("error", .ofText message)]
  | .noMatch => pure ()
  analyzer.log .warning "Falling back to placeholder captures"
    [shownPattern, ("wildcards", .int pattern.wildcardCount)]
  return List.replicate pattern.wildcardCount analyzer.placeholder

/-- Compare an actual line with an expected one. -/
def matchLine (analyzer : Analyzer) (number : Int) (expected actual : Text) :
    Logged LineOutcome := do
  let pattern ← Pattern.ofValues (.ofText expected) analyzer.escape
    (.int analyzer.options.bits)
  if pattern.isMatch actual then
    let captures ← analyzer.captures pattern actual
    return ⟨number, some expected, some actual, true, captures, none, none⟩
  else
    let hint := if analyzer.hints.isTruthy then Hint.message? pattern actual else none
    return ⟨number, some expected, some actual, false, [],
      some MismatchReason.patternMismatch.message, hint⟩

/-- The outcome of an actual line that nothing was expected of. -/
def extraLine (number : Int) (actual : Text) : LineOutcome :=
  ⟨number, none, some actual, false, [], some MismatchReason.extraLine.message, none⟩

/-- The outcome of an expected line that does not come. -/
def missingLine (number : Int) (expected : Text) : LineOutcome :=
  ⟨number, some expected, none, false, [], some MismatchReason.missingLine.message, none⟩

/-- Compare lines pair by pair, counting them from a number. Lines without a counterpart
follow. -/
def compareFrom (analyzer : Analyzer) : (number : Nat) -> (expected actual : List Text) ->
    Logged Diff
  | number, [], actuals =>
      return actuals.mapIdx fun index actual =>
        extraLine ((number + index : Nat) : Int) actual
  | number, expected :: expecteds, [] => do
      let rest ← analyzer.compareFrom (number + 1) expecteds []
      return missingLine number expected :: rest
  | number, expected :: expecteds, actual :: actuals => do
      let line ←
        inScope [("line", .int number)] (analyzer.matchLine number expected actual)
      let rest ← analyzer.compareFrom (number + 1) expecteds actuals
      return line :: rest

/-- Compare an expected text with an actual one. A text that is missing has no lines. -/
def analyze (analyzer : Analyzer) (expected actual : Option Text) : Logged Diff := do
  let expectedLines := Lines.ofText? expected
  let actualLines := Lines.ofText? actual
  analyzer.log .debug "Analyzing diff"
    [("expected_lines", .int expectedLines.length),
      ("actual_lines", .int actualLines.length)]
  let diff ← analyzer.compareFrom 1 expectedLines actualLines
  analyzer.log .debug "Diff analyzed"
    [("overall_match", .bool diff.overallMatch), ("matched", .int diff.matchedCount),
      ("extra", .int diff.extraCount), ("missing", .int diff.missingCount)]
  return diff

end Analyzer
end WildcardDiff
