import WildcardDiff.Text.CodePoint
import WildcardDiff.Text.Digit
import WildcardDiff.Yaml.Cursor
import WildcardDiff.Yaml.Fault

/-!
# Scalars

The texts of scalars, plain or in quotes. A scalar may go on over several lines: a
single line break within it counts as a space, and of several breaks the first one is
dropped. Plain scalars consist of characters, quoted ones of code points, since an
escape sequence may name a surrogate.
-/

namespace WildcardDiff
namespace Yaml

/-- The line breaks at the start of a line, with the blanks around them. -/
structure BreakRun where
  breaks : Text
  length : Nat
  /-- Whether the mark of a document ends the run. -/
  separated : Bool

/-- The run of line breaks and blanks at the start of a text. -/
def BreakRun.ofText (isBlank : Char -> Bool) (startsLine : Bool) : Text -> BreakRun
  | [] => ⟨[], 0, false⟩
  | char :: rest =>
      if startsLine && isSeparator (char :: rest) then
        ⟨[], 0, true⟩
      else if isBreak char then
        let run := ofText isBlank true rest
        ⟨breakChar char :: run.breaks, run.length + 1, run.separated⟩
      else if isBlank char then
        let run := ofText isBlank false rest
        { run with length := run.length + 1 }
      else
        ⟨[], 0, false⟩

/-- What a line break and those that follow it stand for. -/
def foldBreaks (first : Char) (breaks : Text) : Text :=
  if breakChar first ≠ '\n' then breakChar first :: breaks
  else if breaks = [] then [' ']
  else breaks

/-! ## Plain scalars -/

/-- The marks of collections in brackets or braces. -/
def flowMarks : Text := ",[]\x7b\x7d".toList

/-- The number of characters in the word of a plain scalar. -/
def wordLength (inFlow : Bool) : Text -> Nat
  | [] => 0
  | char :: rest =>
      let endsKey := endsWord rest.head? || (inFlow && rest.head?.any flowMarks.contains)
      if endsWord (some char) || (char = ':' && endsKey) ||
          (inFlow && ('?' :: flowMarks).contains char) then 0
      else wordLength inFlow rest + 1

/-- What stands between two words of a plain scalar. -/
structure Gap where
  content : Text
  cursor : Cursor
  /-- Whether a line ends in the gap. -/
  broke : Bool

/-- The gap after a word. -/
def Gap.atCursor (cursor : Cursor) : Gap :=
  let spaces := cursor.rest.takeWhile (· = ' ')
  let after := cursor.advance spaces.length
  match after.rest with
  | [] => ⟨spaces, after, false⟩
  | char :: rest =>
      if isBreak char then
        let run := BreakRun.ofText (· = ' ') true rest
        ⟨if run.separated then [] else foldBreaks char run.breaks,
          after.advance (run.length + 1), true⟩
      else
        ⟨spaces, after, false⟩

/-- A scalar that was read, with the place after it. -/
structure ReadScalar (unit : Type) where
  content : List unit
  cursor : Cursor
  /-- Whether a line ends between the scalar and the place. -/
  broke : Bool

/-- Read a plain scalar from its parts so far, the last one first, and the gap after
them. Outside of brackets and braces it goes on only in lines that are indented more
than the given column. -/
def readPlain (inFlow : Bool) (indent : Option Nat) :
    Nat -> List Text -> Gap -> ReadScalar Char
  | 0, parts, gap => ⟨parts.reverse.flatten, gap.cursor, gap.broke⟩
  | fuel + 1, parts, gap =>
      let length := wordLength inFlow gap.cursor.rest
      if length = 0 then
        ⟨parts.reverse.flatten, gap.cursor, gap.broke⟩
      else
        let longer := gap.cursor.rest.take length :: gap.content :: parts
        let following := Gap.atCursor (gap.cursor.advance length)
        let isOutdented := !inFlow && indent.any (following.cursor.column ≤ ·)
        if following.content = [] ∨ following.cursor.rest.head? = some '#' ∨
          isOutdented then
          ⟨longer.reverse.flatten, following.cursor, following.broke⟩
        else
          readPlain inFlow indent fuel longer following

/-! ## Quoted scalars -/

/-- The character that a letter after a backslash stands for. -/
def escapedChar? : Char -> Option Char
  | '0' => some '\x00'
  | 'a' => some '\x07'
  | 'b' => some '\x08'
  | 't' => some '\t'
  | '\t' => some '\t'
  | 'n' => some '\n'
  | 'v' => some '\x0b'
  | 'f' => some '\x0c'
  | 'r' => some '\r'
  | 'e' => some '\x1b'
  | ' ' => some ' '
  | '"' => some '"'
  | '\\' => some '\\'
  | '/' => some '/'
  | 'N' => some '\u0085'
  | '_' => some '\u00a0'
  | 'L' => some '\u2028'
  | 'P' => some '\u2029'
  | _ => none

/-- The number of hexadecimal digits that follow a letter after a backslash. -/
def codeLength? : Char -> Option Nat
  | 'x' => some 2
  | 'u' => some 4
  | 'U' => some 8
  | _ => none

/-- The first code that does not fit into a signed number of 32 bits. -/
def codeLimit : Nat := Nat.pow 2 31

/-- The code point of a code. -/
def pointOfCode (code : Nat) : Except Fault CodePoint :=
  match CodePoint.ofNat? code with
  | some point => .ok point
  | none => .error (if code < codeLimit then .nonexistent else .oversized)

/-- A part of a quoted scalar, and the number of the characters that write it. -/
abbrev QuotedPart := List CodePoint × Nat

/-- What the text after a backslash stands for, and the number of its characters. -/
def escape : Text -> Except Fault QuotedPart
  | [] => .error .malformed
  | char :: rest =>
      if isBreak char then
        let run := BreakRun.ofText isSpace true rest
        if run.separated then .error .malformed
        else .ok (run.breaks.map .character, run.length + 1)
      else
        match codeLength? char with
        | none => wellFormed
            ((escapedChar? char).map fun escaped => ([.character escaped], 1))
        | some length => do
            let digits ← wellFormed ((rest.take length).mapM Digit.hex?)
            if digits.length < length then throw .malformed
            let escaped ← pointOfCode (Digit.numberIn 16 digits)
            return ([escaped], length + 1)

/-- What blanks in front of a text stand for, and the number of their characters. -/
def quotedGap (text : Text) : Except Fault QuotedPart :=
  let blanks := text.takeWhile isSpace
  match text.drop blanks.length with
  | [] => .error .malformed
  | char :: rest =>
      if isBreak char then
        let run := BreakRun.ofText isSpace true rest
        if run.separated then .error .malformed
        else
          .ok ((foldBreaks char run.breaks).map .character,
            blanks.length + 1 + run.length)
      else
        .ok (blanks.map .character, blanks.length)

/-- Read a quoted scalar from its parts so far, the last one first. In single quotes
only a quote is special, and is written twice. -/
def readQuoted (isDouble : Bool) :
    Nat -> List (List CodePoint) -> Cursor -> Except Fault (ReadScalar CodePoint)
  | 0, _, _ => .error .malformed
  | fuel + 1, parts, cursor =>
      let goOn (part : QuotedPart) : Except Fault (ReadScalar CodePoint) :=
        readQuoted isDouble fuel (part.1 :: parts) (cursor.advance part.2)
      match cursor.rest with
      | [] => .error .malformed
      | char :: rest =>
          if char = (if isDouble then '"' else '\'') then
            if !isDouble && rest.head? = some '\'' then goOn ([.character '\''], 2)
            else .ok ⟨parts.reverse.flatten, cursor.next, false⟩
          else if isDouble && char = '\\' then do
            let (escaped, length) ← escape rest
            goOn (escaped, length + 1)
          else if isSpace char || isBreak char then
            quotedGap cursor.rest >>= goOn
          else
            goOn ([.character char], 1)

end Yaml
end WildcardDiff
