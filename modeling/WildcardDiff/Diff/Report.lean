import WildcardDiff.Diff.Basic
import WildcardDiff.Template.Reading

/-!
# Reports

A report shows a diff to a reader. The detailed layout goes through the lines, with
marks, captures, reasons and hints, and ends with the counts. The plain layout shows the
expected and the actual text as two blocks. Both are templates, and an engine of
templates makes the report.
-/

namespace WildcardDiff
namespace Report

/-- The two layouts. -/
inductive Layout
  | plain
  | detailed
  deriving DecidableEq

/-- The layout that an integer chooses by its lowest bit. -/
def Layout.ofInt (choice : Int) : Layout :=
  if choice % 2 = 1 then .detailed else .plain

/-! ## Values on one line -/

/-- A code point on one line: line breaks and tabs become visible. -/
def visiblePoint : CodePoint -> Points
  | .character '\r' => CodePoint.ofText ['\\', 'r']
  | .character '\n' => CodePoint.ofText ['\\', 'n']
  | .character '\t' => CodePoint.ofText ['\\', 't']
  | point => [point]

/-- A text on one line. An empty one is named. -/
def displayPoints (points : Points) : Points :=
  if points = [] then CodePoint.ofText "<empty>".toList else points.flatMap visiblePoint

/-- A value on one line. Only texts and nulls can be displayed. -/
def displayValue : Value -> Except Template.FilterError Points
  | .null => .ok (CodePoint.ofText "<null>".toList)
  | .text value => .ok (displayPoints (CodePoint.ofText value.toList))
  | .surrogates value => .ok (displayPoints value.points)
  | value => .error ⟨value.kindName⟩

/-- An item on one line. -/
def displayItem : Item -> Except Template.FilterError Points
  | .value value => displayValue value
  | .list _ => .error ⟨"tuple"⟩
  | .record _ => .error ⟨"object"⟩

/-! ## Templates -/

/-- The rules for the templates of reports. -/
def rules : Template.Rules where
  trimBlocks := true
  stripBlocks := true
  keepTrailingFeed := true
  strictUndefined := true

/-- The filters for the templates of reports. -/
def filters : Template.Filters := [("display", displayItem)]

/-- The source of the detailed layout. -/
def detailedSource : String :=
"{{ header }}: Output does not match expected pattern using wildcards.
{% for line in result.line_results %}
{{ separator }}
Line {{ line.line_number }}:
{% if line.is_extra %}
Expected: <no more lines>
Actual  : {{ line.actual_line | display }}
Match   : {{ mismatch_marker }} ({{ line.mismatch_reason }})
{% elif line.is_missing %}
Expected: {{ line.expected_line | display }}
Actual  : <missing line>
Match   : {{ mismatch_marker }} ({{ line.mismatch_reason }})
{% elif line.is_match %}
Expected: {{ line.expected_line | display }}
Actual  : {{ line.actual_line | display }}
Match   : {{ match_marker }}
{% if line.wildcard_captures %}
Wildcard matches:
{% for capture in line.wildcard_captures %}
  * => \"{{ capture | display }}\"
{% endfor %}
{% endif %}
{% else %}
Expected: {{ line.expected_line | display }}
Actual  : {{ line.actual_line | display }}
Match   : {{ mismatch_marker }}
Reason  : {{ line.mismatch_reason }}
{% if line.mismatch_hint %}
Hint    : {{ line.mismatch_hint }}
{% endif %}
{% endif %}
{% endfor %}
{{ separator }}
Summary:
  {{ match_marker }} {{ result.matched_count }} matched
  {{ mismatch_marker }} {{ result.mismatched_count }} mismatched
  + {{ result.extra_count }} extra
  - {{ result.missing_count }} missing
"

/-- The source of the plain layout. -/
def plainSource : String :=
"{{ header }}: Output does not match expected pattern using wildcards.
{{ separator }}
Expected:
{{ result.expected_text }}
{{ separator }}
Actual  :
{{ result.actual_text }}
{{ separator }}
"

/-- The source of a layout. -/
def Layout.source : Layout -> Text
  | .detailed => detailedSource.toList
  | .plain => plainSource.toList

/-! ## Scopes -/

/-- The header of a report, unless another one is chosen. -/
def defaultHeader : String := "Expectation failed"

/-- The line between the blocks of a report. -/
def separator : Text := List.replicate 35 '-'

/-- A text as an item. -/
def textItem (text : Text) : Item :=
  .value (.ofText text)

/-- A text that may be missing, as an item. -/
def optionalItem (text : Option Text) : Item :=
  .value (text.elim .null .ofText)

/-- A number of lines as an item. -/
def countItem (count : Nat) : Item :=
  .value (.int count)

/-- The outcome of a line as a record. -/
def lineItem (line : LineOutcome) : Item :=
  .record [
    ("line_number", .value (.int line.number)),
    ("expected_line", optionalItem line.expected),
    ("actual_line", optionalItem line.actual),
    ("is_match", .value (.bool line.isMatch)),
    ("wildcard_captures", .list (line.captures.map .value)),
    ("mismatch_reason", optionalItem line.reason),
    ("mismatch_hint", optionalItem line.hint),
    ("is_extra", .value (.bool line.isExtra)),
    ("is_missing", .value (.bool line.isMissing)),
    ("status", textItem line.mark)]

/-- A diff as a record. -/
def diffItem (diff : Diff) : Item :=
  .record [
    ("line_results", .list (diff.map lineItem)),
    ("overall_match", .value (.bool diff.overallMatch)),
    ("matched_count", countItem diff.matchedCount),
    ("mismatched_count", countItem diff.mismatchedCount),
    ("extra_lines", .list (diff.extraLines.map optionalItem)),
    ("missing_lines", .list (diff.missingLines.map optionalItem)),
    ("extra_count", countItem diff.extraCount),
    ("missing_count", countItem diff.missingCount),
    ("expected_text", textItem diff.expectedText),
    ("actual_text", textItem diff.actualText)]

/-- What the names in the templates of reports stand for. -/
def scope (header : Value) (diff : Diff) : Template.Scope :=
  [("result", diffItem diff),
    ("header", .value header),
    ("separator", textItem separator),
    ("match_marker", textItem LineOutcome.matchMark),
    ("mismatch_marker", textItem LineOutcome.mismatchMark)]

/-- The report on a diff that an engine makes. -/
def render
    (engine : Template.Engine)
    (layout : Layout)
    (header : Value)
    (diff : Diff) : Except Template.EngineError Points :=
  engine rules filters layout.source (scope header diff)

end Report
end WildcardDiff
