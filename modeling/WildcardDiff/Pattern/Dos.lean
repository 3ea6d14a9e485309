import WildcardDiff.Pattern.Basic

/-!
# DOS wildcards

DOS wildcards know only `*` and `?`. A bracket set becomes `?`, and literals are copied as
they are.
-/

namespace WildcardDiff

/-- What an event adds to a DOS wildcard. -/
def Event.dos : Event -> Text
  | .literal char => [char]
  | .star => ['*']
  | .question => ['?']
  | .setClose => ['?']
  | _ => []

/-- The DOS wildcard of a pattern. -/
def Pattern.dosWildcard (pattern : Pattern) : Text :=
  pattern.events.flatMap Event.dos

end WildcardDiff
