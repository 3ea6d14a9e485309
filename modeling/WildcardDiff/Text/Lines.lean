import WildcardDiff.Text.Basic

/-!
# Lines

A text is split into lines at every line break: a carriage return with a line feed, or
either of them alone. An empty text has no lines, and a break at the end of a text does
not start another line.
-/

namespace WildcardDiff
namespace Lines

/-- The pieces of a text between its line breaks. -/
def pieces : Text -> List Text
  | [] => [[]]
  | '\r' :: '\n' :: rest => [] :: pieces rest
  | char :: rest =>
      if char = '\r' ∨ char = '\n' then
        [] :: pieces rest
      else
        match pieces rest with
        | piece :: following => (char :: piece) :: following
        | [] => [[char]]

/-- The pieces without an empty one at the end. -/
def dropEmptyLast (pieces : List Text) : List Text :=
  if pieces.getLast? = some [] then pieces.dropLast else pieces

/-- The lines of a text. -/
def ofText (text : Text) : List Text :=
  if text = [] then [] else dropEmptyLast (pieces text)

/-- The lines of a text that may be missing. -/
def ofText? (text : Option Text) : List Text :=
  ofText (text.getD [])

end Lines
end WildcardDiff
