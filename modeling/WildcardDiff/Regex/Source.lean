import WildcardDiff.Pattern.Basic

/-!
# Regular expressions of patterns

The source text of the regular expression that a pattern translates to, in two forms. The
plain form, meant for searching, is anchored at both ends, but a run at either end is
dropped together with its anchor. The capturing form, meant for matching a whole text, has
one group for each wildcard and keeps its anchors.
-/

namespace WildcardDiff
namespace Regex

/-- The characters that are written with a backslash: those with a meaning of their own
somewhere in regular expressions, and blanks. -/
def specials : Text :=
  "()[]\x7b\x7d?*+-|^$\\.&~# \t\n\r\x0b\x0c".toList

/-- Whether a character is written with a backslash. -/
def isSpecial (char : Char) : Bool :=
  specials.contains char

/-- A character that stands for itself. -/
def quote (char : Char) : Text :=
  if isSpecial char then ['\\', char] else [char]

/-- The anchor at the end, which holds nowhere but at the very end. -/
def endAnchor : Text := "\\Z".toList

/-- The anchored run at the beginning that a search does not need. -/
def leadingRun : Text := "^.*".toList

/-- The anchored run at the end that a search does not need. -/
def trailingRun : Text := ".*".toList ++ endAnchor

/-- Drop an anchored run at the beginning and one at the end. An expression that matches
everything becomes empty. -/
def simplify (source : Text) : Text :=
  if source = '^' :: trailingRun then
    []
  else
    let source :=
      if leadingRun.isPrefixOf source then source.drop leadingRun.length else source
    if trailingRun.isSuffixOf source then source.take (source.length - trailingRun.length)
    else source

end Regex

/-- What an event adds to the source of a regular expression. -/
def Event.regex (capturing : Bool) : Event -> Text
  | .literal char => Regex.quote char
  | .star => if capturing then "(.*?)".toList else ".*".toList
  | .question => if capturing then "(.)".toList else ".".toList
  | .setOpen => if capturing then "([".toList else "[".toList
  | .setMember char => Regex.quote char
  | .setRange low high => Regex.quote low ++ ['-'] ++ Regex.quote high
  | .setClose => if capturing then "])".toList else "]".toList

namespace Regex

/-- The source between the anchors. -/
def body (capturing : Bool) (events : List Event) : Text :=
  events.flatMap (Event.regex capturing)

/-- A source put between the anchors, and simplified unless it captures. -/
def anchored (capturing : Bool) (body : Text) : Text :=
  let source := '^' :: body ++ endAnchor
  if capturing then source else simplify source

/-- The source of the regular expression of a list of events. -/
def ofEvents (capturing : Bool) (events : List Event) : Text :=
  anchored capturing (body capturing events)

end Regex

/-- The source of the regular expression of a pattern. -/
def Pattern.regex (pattern : Pattern) (capturing : Bool) : Text :=
  Regex.ofEvents capturing pattern.events

end WildcardDiff
