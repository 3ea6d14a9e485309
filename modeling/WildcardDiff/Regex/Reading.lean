import WildcardDiff.Regex.Matching
import WildcardDiff.Regex.Source

/-!
# Reading regular expressions

The reading of source texts as regular expressions, for the language in which translated
patterns are written. A backslash makes the character after it stand for itself, except
that before a `Z` it is the anchor at the end. A group holds a single piece.
-/

namespace WildcardDiff
namespace Regex

/-- A character of a source, with the backslash before it if it has one. -/
inductive Token
  | plain (char : Char)
  | quoted (char : Char)
  deriving DecidableEq

/-- The tokens of a source. A backslash at the end is refused. -/
def tokens? : Text -> Option (List Token)
  | [] => some []
  | ['\\'] => none
  | '\\' :: char :: rest => (tokens? rest).map (.quoted char :: ·)
  | char :: rest => (tokens? rest).map (.plain char :: ·)

/-- The character that a token stands for when it stands for itself: an unquoted character
without a meaning of its own, or a quoted one that is no letter or digit. -/
def Token.char? : Token -> Option Char
  | .plain char => if isSpecial char then none else some char
  | .quoted char => if char.isAlphanum then none else some char

/-- Where in a source the reading stands: at a piece, or in a set with the items so
far. -/
inductive Place
  | atPiece
  | inSet
      (captured : Bool)
      (items : List Item)

/-- A piece in front of the pieces that follow. -/
def andThen (term : Term) (captured : Bool) (pieces : Option (List Piece)) :
    Option (List Piece) :=
  pieces.map (⟨term, captured⟩ :: ·)

/-- Read tokens as pieces. -/
def readTokens : Place -> List Token -> Option (List Piece)
  | .atPiece, [] => some []
  | .inSet _ _, [] => none
  | .atPiece, .plain '^' :: rest => andThen .start false (readTokens .atPiece rest)
  | .atPiece, .quoted 'Z' :: rest => andThen .finish false (readTokens .atPiece rest)
  | .atPiece, .plain '(' :: .plain '.' :: .plain '*' :: .plain '?' ::
      .plain ')' :: rest =>
      andThen (.run true) true (readTokens .atPiece rest)
  | .atPiece, .plain '(' :: .plain '.' :: .plain ')' :: rest =>
      andThen (.one .any) true (readTokens .atPiece rest)
  | .atPiece, .plain '(' :: .plain '[' :: rest => readTokens (.inSet true []) rest
  | .atPiece, .plain '.' :: .plain '*' :: rest =>
      andThen (.run false) false (readTokens .atPiece rest)
  | .atPiece, .plain '.' :: rest => andThen (.one .any) false (readTokens .atPiece rest)
  | .atPiece, .plain '[' :: rest => readTokens (.inSet false []) rest
  | .atPiece, token :: rest =>
      match token.char? with
      | some char => andThen (.one (.single char)) false (readTokens .atPiece rest)
      | none => none
  | .inSet true items, .plain ']' :: .plain ')' :: rest =>
      if items = [] then none
      else andThen (.one (.set items)) true (readTokens .atPiece rest)
  | .inSet captured items, .plain ']' :: rest =>
      if items = [] ∨ captured then none
      else andThen (.one (.set items)) false (readTokens .atPiece rest)
  | .inSet captured items, low :: .plain '-' :: high :: rest =>
      match low.char?, high.char? with
      | some low, some high =>
          if high < low then none
          else readTokens (.inSet captured (items ++ [.range low high])) rest
      | _, _ => none
  | .inSet captured items, token :: rest =>
      match token.char? with
      | some char => readTokens (.inSet captured (items ++ [.one char])) rest
      | none => none

/-- The regular expression that a source writes. -/
def ofSource? (source : Text) : Option (List Piece) :=
  (tokens? source).bind (readTokens .atPiece)

end Regex

/-- The compiled regular expression of a pattern. -/
def Pattern.compileRegex?
    (pattern : Pattern)
    (capturing : Bool) : Option (List Regex.Piece) :=
  Regex.ofSource? (pattern.regex capturing)

end WildcardDiff
