import WildcardDiff.Pattern.Event

/-!
# Reading patterns

The reading of the text of a pattern, in one pass from left to right. An escape character
makes the character after it literal. Outside of brackets `*`, `?` and `[` are read as
wildcards before they could act as the escape. In a bracket set the first `]` that is not
escaped closes the set, except right after the opening `[`, where it is a member; an
unescaped `-` between two members makes a range.

A reading fails when a set is not closed or a range runs downwards. Its events up to the
failure are kept.
-/

namespace WildcardDiff

/-- A character collected between brackets. -/
structure Member where
  char : Char
  /-- Whether the character is an unescaped `-`, which makes a range of its neighbours. -/
  isDash : Bool
  deriving DecidableEq

/-- The events of the members of a set, and whether every range runs upwards. The events
stop before the first range that does not. -/
def Member.events : List Member -> List Event × Bool
  | [] => ([], true)
  | [last] => ([.setMember last.char], true)
  | [first, last] => ([.setMember first.char, .setMember last.char], true)
  | low :: dash :: high :: rest =>
      if dash.isDash then
        if high.char < low.char then
          ([], false)
        else
          let (events, upward) := Member.events rest
          (.setRange low.char high.char :: events, upward)
      else
        let (events, upward) := Member.events (dash :: high :: rest)
        (.setMember low.char :: events, upward)

/-- How the reading of a text ends. -/
inductive Ending
  /-- All of the text was read. -/
  | complete
  /-- The text ends in an escape character that escapes nothing. -/
  | dangling (escape : Char)
  /-- A set is not closed, or a range runs downwards. -/
  | failed
  deriving DecidableEq

/-- The events of a text, and how its reading ends. -/
structure Reading where
  events : List Event
  ending : Ending
  deriving DecidableEq

/-- A reading with one event before it. -/
def Reading.cons (event : Event) (reading : Reading) : Reading :=
  { reading with events := event :: reading.events }

/-- The reading of a set and of what follows it. -/
def Reading.set (members : List Member) (following : Reading) : Reading :=
  let (events, upward) := Member.events members
  if upward then
    ⟨.setOpen :: events ++ .setClose :: following.events, following.ending⟩
  else
    ⟨.setOpen :: events, .failed⟩

/-- Where in a pattern the reading stands. -/
inductive Scope
  | outside
  /-- Inside of a set, with the members so far. The set has `justOpened` when no character
  followed its opening bracket yet. -/
  | inside
      (justOpened : Bool)
      (members : List Member)
  deriving DecidableEq

/-- Read a text from a scope on. The character before the text is an escape that is still
to be paired when `escaping` holds. -/
def scan (escape : Option Char) : Scope -> (escaping : Bool) -> Text -> Reading
  | .outside, escaping, [] =>
      match escape, escaping with
      | some char, true => ⟨[], .dangling char⟩
      | _, _ => ⟨[], .complete⟩
  | .inside _ _, _, [] => ⟨[], .failed⟩
  | .outside, true, char :: rest => (scan escape .outside false rest).cons (.literal char)
  | .outside, false, char :: rest =>
      let escapes := escape = some char
      if char = '*' then (scan escape .outside escapes rest).cons .star
      else if char = '?' then (scan escape .outside escapes rest).cons .question
      else if char = '[' then scan escape (.inside true []) escapes rest
      else if escapes then scan escape .outside true rest
      else (scan escape .outside false rest).cons (.literal char)
  | .inside _ members, true, char :: rest =>
      scan escape (.inside false (members ++ [⟨char, false⟩])) false rest
  | .inside justOpened members, false, char :: rest =>
      let escapes := escape = some char
      if char = ']' ∧ justOpened = false then
        (scan escape .outside escapes rest).set members
      else if escapes then
        scan escape (.inside false members) true rest
      else
        scan escape (.inside false (members ++ [⟨char, char = '-'⟩])) false rest

/-- The reading of the whole text of a pattern. An escape character at the end is a
literal, except that a text of nothing but the escape is the empty pattern. -/
def Reading.ofText (escape : Option Char) (text : Text) : Reading :=
  let reading := scan escape .outside false text
  match reading.ending with
  | .dangling char =>
      if text = [char] then ⟨reading.events, .complete⟩
      else ⟨reading.events ++ [.literal char], .complete⟩
  | _ => reading

/-- The events of the text of a pattern, unless its reading fails. -/
def events? (escape : Option Char) (text : Text) : Option (List Event) :=
  let reading := Reading.ofText escape text
  if reading.ending = .complete then some reading.events else none

end WildcardDiff
