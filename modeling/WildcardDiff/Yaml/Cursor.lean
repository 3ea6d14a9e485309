import WildcardDiff.Text.Basic

/-!
# Cursors

A cursor is a place in a YAML text. It knows what follows and how many characters, lines
and columns lie before it. Line feeds, next-line characters, and line and paragraph
separators break lines.
-/

namespace WildcardDiff
namespace Yaml

/-- Whether a character breaks a line. -/
def isBreak (char : Char) : Bool :=
  char = '\n' || char = '\u0085' || char = '\u2028' || char = '\u2029'

/-- Whether a character is a space or a tab. -/
def isSpace (char : Char) : Bool :=
  char = ' ' || char = '\t'

/-- Whether a word ends in front of a character, or at the end of the text. -/
def endsWord : Option Char -> Bool
  | none => true
  | some char => isSpace char || isBreak char

/-- What a line break stands for in a scalar. -/
def breakChar (char : Char) : Char :=
  if char = '\u0085' then '\n' else char

/-- Whether a line begins with the mark of the start or the end of a document. -/
def isSeparator : Text -> Bool
  | first :: second :: third :: rest =>
      (first = '-' || first = '.') && second = first && third =
        first && endsWord rest.head?
  | _ => false

/-- The mark of byte order, which may stand in front of a text. -/
def byteOrderMark : Char := '\ufeff'

/-- A place in a text. -/
structure Cursor where
  rest : Text
  index : Nat
  line : Nat
  column : Nat

namespace Cursor

/-- Move over one character. -/
def next (cursor : Cursor) : Cursor :=
  match cursor.rest with
  | [] => cursor
  | char :: rest =>
      if isBreak char then ⟨rest, cursor.index + 1, cursor.line + 1, 0⟩
      else if char = byteOrderMark
        then ⟨rest, cursor.index + 1, cursor.line, cursor.column⟩
      else ⟨rest, cursor.index + 1, cursor.line, cursor.column + 1⟩

/-- Move over a number of characters. -/
def advance : Nat -> Cursor -> Cursor
  | 0, cursor => cursor
  | count + 1, cursor => advance count cursor.next

/-- The start of a text, after a mark of byte order. -/
def start (text : Text) : Cursor :=
  let cursor : Cursor := ⟨text, 0, 0, 0⟩
  if text.head? = some byteOrderMark then cursor.next else cursor

end Cursor

/-- How many characters lie before the next token, comments among them, and whether a line
ends there. -/
def blankRun (inComment : Bool) : Text -> Nat × Bool
  | [] => (0, false)
  | char :: rest =>
      if isBreak char then ((blankRun false rest).1 + 1, true)
      else if inComment || char = ' ' || char = '#' then
        let (length, broke) := blankRun (inComment || char = '#') rest
        (length + 1, broke)
      else (0, false)

end Yaml
end WildcardDiff
