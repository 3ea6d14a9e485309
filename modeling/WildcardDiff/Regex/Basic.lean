import WildcardDiff.Regex.Letter

/-!
# Regular expressions

The regular expressions that patterns translate to: a sequence of pieces, each an
anchor, a single character of a class, or a run of any characters, and each captured or
not. A run prefers to be long unless it is lazy. Any character includes line breaks.
-/

namespace WildcardDiff
namespace Regex

/-- What a set lists: a character, or an inclusive range. -/
inductive Item
  | one (char : Char)
  | range (low high : Char)
  deriving DecidableEq

/-- A class of characters. -/
inductive Class
  | any
  | single (char : Char)
  | set (items : List Item)
  deriving DecidableEq

/-- What a piece matches. -/
inductive Term
  /-- The beginning of the text. -/
  | start
  /-- The very end of the text. -/
  | finish
  /-- One character. -/
  | one (kind : Class)
  /-- A run of any characters. -/
  | run (isLazy : Bool)
  deriving DecidableEq

/-- A piece of a regular expression. -/
structure Piece where
  term : Term
  captured : Bool
  deriving DecidableEq

/-- Whether a character lies in the basic plane, whose characters have 16-bit codes. -/
def isBasic (char : Char) : Bool :=
  char.toNat < 0x10000

/-- Whether a character lies in a range. -/
def inRange (low high char : Char) : Bool :=
  low ≤ char && char ≤ high

/-- Whether an item of a set of several items accepts a character when case is ignored.
Within the basic plane every variant of the character counts. Above it a listed character
is compared with the lower case alone, and a range with the lower case and its capital. -/
def Item.acceptsLetter (char : Char) : Item -> Bool
  | .one listed =>
      if isBasic (Case.small listed) then Letter.same listed char
      else listed = Case.small char
  | .range low high =>
      (Letter.variants char).any
        (fun variant => isBasic variant && inRange low high variant) ||
        (!isBasic high &&
          (inRange low high (Case.small char) ||
            inRange low high (Case.capital (Case.small char))))

/-- Whether an item accepts a character as it is. -/
def Item.accepts (char : Char) : Item -> Bool
  | .one listed => listed = char
  | .range low high => inRange low high char

/-- Whether a class accepts a character. A set of one character is that character. -/
def Class.accepts (ignoreCase : Bool) (char : Char) : Class -> Bool
  | .any => true
  | .single expected => if ignoreCase then Letter.same expected char else expected = char
  | .set items =>
      if ignoreCase then
        match items.eraseDups with
        | [.one expected] => Letter.same expected char
        | distinct => distinct.any (Item.acceptsLetter char)
      else
        items.any (Item.accepts char)

/-- A stretch of a text, from a position up to another one. -/
structure Span where
  start : Nat
  finish : Nat
  deriving DecidableEq

/-- The part of a text that a span covers. -/
def Span.of (span : Span) (text : Text) : Text :=
  (text.drop span.start).take (span.finish - span.start)

/-- A match: the position after its last character, and the captured spans. -/
structure Match where
  finish : Nat
  groups : List Span
  deriving DecidableEq

/-- A match with the capture of one more piece before the others. -/
def Match.capture (captured : Bool) (span : Span) (found : Match) : Match :=
  if captured then { found with groups := span :: found.groups } else found

/-- The lengths that a run may have, the preferred ones first. -/
def runLengths (isLazy : Bool) (available : Nat) : List Nat :=
  let lengths := List.range (available + 1)
  if isLazy then lengths else lengths.reverse

/-- Match pieces at a position, of which the rest of the text follows. The first choice of
lengths that lets all pieces match is taken, where earlier pieces choose first. -/
def matchAt (ignoreCase : Bool) : List Piece -> (position : Nat) -> Text -> Option Match
  | [], position, _ => some ⟨position, []⟩
  | ⟨.start, _⟩ :: pieces, position, rest =>
      if position = 0 then matchAt ignoreCase pieces position rest else none
  | ⟨.finish, _⟩ :: pieces, position, rest =>
      if rest = [] then matchAt ignoreCase pieces position rest else none
  | ⟨.one _, _⟩ :: _, _, [] => none
  | ⟨.one kind, captured⟩ :: pieces, position, char :: rest =>
      if kind.accepts ignoreCase char then
        (matchAt ignoreCase pieces (position + 1) rest).map
          (.capture captured ⟨position, position + 1⟩)
      else
        none
  | ⟨.run isLazy, captured⟩ :: pieces, position, rest =>
      (runLengths isLazy rest.length).findSome? fun length =>
        (matchAt ignoreCase pieces (position + length) (rest.drop length)).map
          (.capture captured ⟨position, position + length⟩)

/-- The number of captured pieces. -/
def groupCount (pieces : List Piece) : Nat :=
  pieces.countP Piece.captured

end Regex
end WildcardDiff
