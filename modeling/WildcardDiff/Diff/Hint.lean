import WildcardDiff.Pattern.Basic

/-!
# Mismatch hints

A hint says where a line first differs from a pattern when both are compared position by
position. Every wildcard fills one position and fits any character there, so a hint
helps a reader but decides nothing about matching.
-/

namespace WildcardDiff
namespace Hint

/-- The positions of a pattern: a literal character, or `none` for a wildcard. -/
def positions (events : List Event) : List (Option Char) :=
  events.filterMap fun event =>
    match event with
    | .literal char => some (some char)
    | event => if event.isWildcard then some none else none

/-- A character in a hint, with line breaks and tabs made visible. -/
def visible (char : Char) : Text :=
  if char = '\r' then ['\\', 'r']
  else if char = '\n' then ['\\', 'n']
  else if char = '\t' then ['\\', 't']
  else [char]

/-- What a hint reports. -/
inductive Difference
  | atPosition
      (position : Nat)
      (expected actual : Char)
  | inLength (expected actual : Nat)
  deriving DecidableEq

/-- The text of a hint. -/
def Difference.message : Difference -> Text
  | .atPosition position expected actual =>
      "Mismatch at position ".toList ++ Digit.ofNat position ++ ": expected '".toList ++
        visible expected ++ "' but got '".toList ++ visible actual ++ "'".toList
  | .inLength expected actual =>
      "Length mismatch: expected ".toList ++ Digit.ofNat expected ++
        " characters but got ".toList ++ Digit.ofNat actual

/-- The first position, counted from a start, at which a literal differs from a character
after folding. -/
def firstDifference (folding : Folding) (start : Nat) :
    List (Option Char) -> Text -> Option Difference
  | some expected :: expecteds, actual :: actuals =>
      if folding.apply [expected] = folding.apply [actual] then
        firstDifference folding (start + 1) expecteds actuals
      else
        some (.atPosition start expected actual)
  | none :: expecteds, _ :: actuals =>
      firstDifference folding (start + 1) expecteds actuals
  | [], _ => none
  | _, [] => none

/-- The first difference of a line from a pattern: at a position, else in length. -/
def find (pattern : Pattern) (actual : Text) : Option Difference :=
  let expected := positions pattern.events
  match firstDifference pattern.options.folding 0 expected actual with
  | some difference => some difference
  | none =>
      if expected.length = actual.length then none
      else some (.inLength expected.length actual.length)

/-- The hint for a line, if it differs. -/
def message? (pattern : Pattern) (actual : Text) : Option Text :=
  (find pattern actual).map Difference.message

end Hint
end WildcardDiff
