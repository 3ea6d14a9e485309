import WildcardDiff.ErrorCode
import WildcardDiff.Pattern.Reading
import WildcardDiff.Pattern.Matching
import WildcardDiff.Value.Written

/-!
# Wildcard patterns

A wildcard pattern is a text, an optional escape character and match options. It exists
only if its text can be read: every escape stands before a character that has a meaning
of its own, sets are closed, and ranges run upwards. Patterns are also built from
loosely typed values, whose kinds are then checked first.
-/

namespace WildcardDiff

/-- Why a pattern cannot be built. -/
inductive PatternError
  /-- The text is a value of another kind. -/
  | notText (kind : String)
  /-- The escape is not a single character; its quoted form is kept. -/
  | escapeNotSingle
      (shown : Text)
      (pattern : Text)
  /-- An escape stands before a character that needs none. -/
  | escapedOrdinary
      (escape : Option Char)
      (pattern : Text)
  /-- The options are of a kind that gives none. -/
  | unknownOptions
  /-- A set is not closed, or a range runs downwards. -/
  | unreadable (pattern : Text)
  deriving DecidableEq

namespace PatternError

/-- The message of a failure. -/
def message : PatternError -> Text
  | .notText kind => ("pattern must be a str, not " ++ kind).toList
  | .escapeNotSingle shown _ =>
      "escape character must be a single character, got ".toList ++ shown
  | .escapedOrdinary escape _ =>
      "pattern contains escape characters, '".toList ++ escape.toList ++
        "', with non-wildcard characters.".toList
  | .unknownOptions => "unknown options".toList
  | .unreadable pattern =>
      "The wildcard pattern, '".toList ++ pattern ++ "', is invalid.".toList

end PatternError

/-- Whether no escape character, and no run of them, stands before an ordinary character.
The character before the text is an escape when `escaping` holds. -/
def escapesOnlyMeta (escape : Char) : (escaping : Bool) -> Text -> Bool
  | _, [] => true
  | escaping, char :: rest =>
      if char = escape then escapesOnlyMeta escape true rest
      else (!escaping || isMeta char) && escapesOnlyMeta escape false rest

/-- Whether the escapes of a text are well placed; without an escape character they
are. -/
def escapesPlaced (escape : Option Char) (text : Text) : Bool :=
  match escape with
  | some char => escapesOnlyMeta char false text
  | none => true

/-- A wildcard pattern, whose text has been read into events. -/
structure Pattern where
  text : Text
  escape : Option Char
  options : Options
  events : List Event
  /-- The escapes are well placed. -/
  placed : escapesPlaced escape text = true
  /-- The text reads as the events. -/
  reads : events? escape text = some events

namespace Pattern

/-- Build a pattern. -/
def build (text : Text) (escape : Option Char) (options : Options) :
    Except PatternError Pattern :=
  if placed : escapesPlaced escape text = true then
    match reads : events? escape text with
    | some events => .ok ⟨text, escape, options, events, placed, reads⟩
    | none => .error (.unreadable text)
  else
    .error (.escapedOrdinary escape text)

/-- The escape character that a value gives: none for a null, else a single character. A
single surrogate is none either, since no pattern holds it. -/
def escapeOfValue (pattern : Text) : Value -> Except PatternError (Option Char)
  | .null => .ok none
  | .text value =>
      match value.toList with
      | [char] => .ok (some char)
      | _ => .error (.escapeNotSingle (Value.text value).quoted pattern)
  | .surrogates value =>
      if value.length = 1 then .ok none
      else .error (.escapeNotSingle (Value.surrogates value).quoted pattern)
  | value => .error (.escapeNotSingle value.quoted pattern)

/-- Build a pattern from values of any kind. The kinds of text and escape and the
placing of escapes are checked before the options, the brackets after them. -/
def ofValues (text escape options : Value) : Except PatternError Pattern :=
  match text with
  | .text content => do
      let text := content.toList
      let escape ← escapeOfValue text escape
      if !escapesPlaced escape text then
        .error (.escapedOrdinary escape text)
      else
        match Options.ofValue? options with
        | some options => build text escape options
        | none => .error .unknownOptions
  | other => .error (.notText other.kindName)

/-- The pattern `*`, which is shared by all who obtain it. -/
def matchAll : Pattern :=
  ⟨['*'], none, .none, [.star], by decide, by decide⟩

/-- A pattern without an escape character. The text `*` gives the shared pattern, whatever
the options; the second component tells whether it did. -/
def obtain (text options : Value) : Except PatternError (Pattern × Bool) :=
  match text with
  | .text "*" => .ok (matchAll, true)
  | text => (ofValues text .null options).map fun pattern => (pattern, false)

/-- The elements that the events of the pattern make. -/
def elements (pattern : Pattern) : List Element :=
  Element.ofEvents pattern.options pattern.events

/-- Match by the elements alone. -/
def matchElements (pattern : Pattern) (text : Text) : Bool :=
  Element.matchAll pattern.options.folding pattern.elements text

/-- Whether the pattern matches the whole of a text. The pattern `*` matches every
text. -/
def isMatch (pattern : Pattern) (text : Text) : Bool :=
  pattern.text = ['*'] || pattern.matchElements text

/-- Whether the pattern matches a value; only texts are matched. -/
def matchesValue (pattern : Pattern) : Value -> Bool
  | .text content => pattern.isMatch content.toList
  | _ => false

/-- What an element takes of a sequence in which not every item is a text: the items that
are none fit `?` alone. -/
def takesItem : Option Symbol -> Element -> Bool
  | some symbol, element => element.takes symbol
  | none, element => element = .anyChar

/-- Whether a pass came to an item that is no text and needed it to be one: to take away
its letter case, at any place that was reached, or to look for it in a set. -/
def needsText
    (pattern : Pattern)
    (items : List (Option Symbol))
    (run : Matching.Run) : Bool :=
  let isForeign (place : Nat) : Bool := items[place]? = some none
  let folds := pattern.options.folding ≠ .exact
  let elements := pattern.elements.toArray
  items.contains none &&
    ((folds && isForeign 0) || run.visited.any fun visit =>
      isForeign visit.2 && (folds || elements[visit.1]?.any Element.isSet))

/-- Match the items of a sequence by the elements alone, unless an item is no text where a
text is needed. -/
def matchItems? (pattern : Pattern) (items : List (Option Symbol)) : Option Bool :=
  let run := Matching.run takesItem pattern.elements items
  if pattern.needsText items run then none else some run.matched

/-- Match what a value consists of by the elements alone: the characters of a text, the
items of a list, or the keys of a mapping. -/
def matchSequence? (pattern : Pattern) : Value -> Option Bool
  | .text content => some (pattern.matchElements content.toList)
  | .list items =>
      pattern.matchItems? (items.map fun item =>
        item.text?.map fun text => pattern.options.folding.symbol text.toList)
  | .mapping entries =>
      pattern.matchItems? (entries.map fun entry =>
        entry.1.text?.map fun text => pattern.options.folding.symbol text.toList)
  | _ => none

/-- The number of wildcards of the pattern. -/
def wildcardCount (pattern : Pattern) : Nat :=
  Event.countWildcards pattern.events

/-- Whether two patterns have the same text, escape and options. -/
def same (left right : Pattern) : Bool :=
  left.text = right.text && left.escape = right.escape && left.options = right.options

end Pattern
end WildcardDiff
