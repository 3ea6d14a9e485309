import WildcardDiff.Text.Case

/-!
# Character sets

The set that a bracket expression stands for: members and inclusive ranges. Members are
texts, since the other case of a character may have several characters; only texts of
one character can lie in a range. When letter case is ignored, a text belongs to the set
if it, its lower case or its upper case does.
-/

namespace WildcardDiff

/-- Members and inclusive ranges. -/
structure CharSet where
  members : List Text
  ranges : List (Text × Text)
  ignoreCase : Bool
  deriving DecidableEq

namespace CharSet

/-- The set of nothing. -/
def empty (ignoreCase : Bool) : CharSet :=
  ⟨[], [], ignoreCase⟩

/-- Add a member. -/
def addMember (set : CharSet) (member : Text) : CharSet :=
  if set.members.contains member then set
  else { set with members := set.members ++ [member] }

/-- Add a range after the others. -/
def addRange (set : CharSet) (low high : Text) : CharSet :=
  { set with ranges := set.ranges ++ [(low, high)] }

/-- Whether a text is a member or, as a single character, lies in a range. -/
def holds (set : CharSet) (text : Text) : Bool :=
  set.members.contains text ||
    (text.length = 1 && set.ranges.any fun range =>
      Text.atMost range.1 text && Text.atMost text range.2)

/-- The forms of a text that are looked for in a set. -/
def forms (set : CharSet) (text : Text) : List Text :=
  if set.ignoreCase then [text, Case.lowerText text, Case.upperText text] else [text]

/-- Whether a text belongs to the set. -/
def contains (set : CharSet) (text : Text) : Bool :=
  (set.forms text).any set.holds

/-- The members in ascending order. -/
def sortedMembers (set : CharSet) : List Text :=
  set.members.mergeSort Text.atMost

end CharSet
end WildcardDiff
