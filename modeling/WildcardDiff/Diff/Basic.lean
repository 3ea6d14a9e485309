import WildcardDiff.Value.Basic
import WildcardDiff.Text.Basic

/-!
# Diffs

A diff is the list of the outcomes of comparing lines. A line without an expected text is
an extra one, a line without an actual text a missing one. The counts and texts of a diff
are taken from its lines.
-/

namespace WildcardDiff

/-- The outcome of comparing an expected line with an actual one. -/
structure LineOutcome where
  number : Int
  expected : Option Text
  actual : Option Text
  isMatch : Bool
  captures : List Value
  reason : Option Text
  hint : Option Text

namespace LineOutcome

/-- Whether the line has no expected text. -/
def isExtra (line : LineOutcome) : Bool :=
  line.expected.isNone

/-- Whether the line has no actual text. -/
def isMissing (line : LineOutcome) : Bool :=
  line.actual.isNone

/-- Whether the line has both texts and they do not match. -/
def isMismatch (line : LineOutcome) : Bool :=
  !line.isMatch && !line.isExtra && !line.isMissing

/-- The mark of a match. -/
def matchMark : Text := "✅".toList

/-- The mark of a mismatch. -/
def mismatchMark : Text := "❌".toList

/-- The mark of the line. -/
def mark (line : LineOutcome) : Text :=
  if line.isMatch then matchMark else mismatchMark

end LineOutcome

/-- Why a line does not match. -/
inductive MismatchReason
  | extraLine
  | missingLine
  | patternMismatch
  deriving DecidableEq

/-- The text of a reason. -/
def MismatchReason.message : MismatchReason -> Text
  | .extraLine => "unexpected extra line".toList
  | .missingLine => "missing line".toList
  | .patternMismatch => "pattern does not match".toList

/-- The outcomes of all lines. -/
abbrev Diff := List LineOutcome

namespace Diff

/-- Whether every line matches. -/
def overallMatch (diff : Diff) : Bool :=
  diff.all LineOutcome.isMatch

/-- The number of lines that match. -/
def matchedCount (diff : Diff) : Nat :=
  diff.countP LineOutcome.isMatch

/-- The number of lines whose texts do not match. -/
def mismatchedCount (diff : Diff) : Nat :=
  diff.countP LineOutcome.isMismatch

/-- The actual texts of the extra lines. -/
def extraLines (diff : Diff) : List (Option Text) :=
  (diff.filter LineOutcome.isExtra).map LineOutcome.actual

/-- The expected texts of the missing lines. -/
def missingLines (diff : Diff) : List (Option Text) :=
  (diff.filter LineOutcome.isMissing).map LineOutcome.expected

/-- The number of extra lines. -/
def extraCount (diff : Diff) : Nat :=
  diff.extraLines.length

/-- The number of missing lines. -/
def missingCount (diff : Diff) : Nat :=
  diff.missingLines.length

/-- The expected lines, joined by line feeds. -/
def expectedText (diff : Diff) : Text :=
  Text.join ['\n'] (diff.filterMap LineOutcome.expected)

/-- The actual lines, joined by line feeds. -/
def actualText (diff : Diff) : Text :=
  Text.join ['\n'] (diff.filterMap LineOutcome.actual)

end Diff
end WildcardDiff
