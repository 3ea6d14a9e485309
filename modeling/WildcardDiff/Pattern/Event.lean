import WildcardDiff.Text.Basic

/-!
# Pattern events

What the text of a wildcard pattern says, from left to right: literal characters, the
wildcards `*` and `?`, and bracket sets, which open, list their members and ranges, and
close.
-/

namespace WildcardDiff

/-- One event of the reading of a pattern. -/
inductive Event
  | literal (char : Char)
  | star
  | question
  | setOpen
  | setMember (char : Char)
  | setRange (low high : Char)
  | setClose
  deriving DecidableEq

/-- Whether a character has a meaning of its own in patterns. -/
def isMeta (char : Char) : Bool :=
  char = '*' || char = '?' || char = '[' || char = ']'

namespace Event

/-- The name of the kind of an event. -/
def kindName : Event -> String
  | .literal _ => "literal"
  | .star => "asterisk"
  | .question => "question_mark"
  | .setOpen => "bracket_start"
  | .setMember _ => "bracket_literal"
  | .setRange _ _ => "bracket_range"
  | .setClose => "bracket_end"

/-- The names of all kinds of events. -/
def kindNames : List String :=
  [.literal 'a', .star, .question, .setOpen, .setMember 'a', .setRange 'a' 'a',
    .setClose].map
    kindName

/-- The characters that an event carries: the literal, or the bounds of a range. -/
def chars : Event -> Text
  | .literal char => [char]
  | .setMember char => [char]
  | .setRange low high => [low, high]
  | _ => []

/-- Whether an event begins a wildcard: `*`, `?` or a bracket set. -/
def isWildcard : Event -> Bool
  | .star => true
  | .question => true
  | .setOpen => true
  | _ => false

/-- The number of wildcards among events. -/
def countWildcards (events : List Event) : Nat :=
  events.countP isWildcard

end Event
end WildcardDiff
