import WildcardDiff.Text.CodePoint
import WildcardDiff.Text.PrintableTable

/-!
# Quoted texts

The quoted form in which messages show a text: between single quotes, or between double
quotes if the text holds a single quote and no double one. Inside, the quote in use, the
backslash and the line controls follow a backslash, and every other character that is not
printable is written by its code in hexadecimal, and so are surrogates.
-/

namespace WildcardDiff
namespace Quoted

/-- Whether a character is shown as it is. -/
def isPrintable (char : Char) : Bool :=
  !Text.inRanges PrintableTable.unprintable char

/-- The lower-case hexadecimal digits of a code point, filled with zeros to a width. -/
def hexadecimal (width code : Nat) : Text :=
  let digits := Nat.toDigits 16 code
  List.replicate (width - digits.length) '0' ++ digits

/-- The hexadecimal form of a code: two, four or eight digits, whichever is the first to
hold it. -/
def codeForm (code : Nat) : Text :=
  if code < 0x100 then
    ['\\', 'x'] ++ hexadecimal 2 code
  else if code < 0x10000 then
    ['\\', 'u'] ++ hexadecimal 4 code
  else
    ['\\', 'U'] ++ hexadecimal 8 code

/-- The form of one character between quotes of the given kind. -/
def charForm (quote char : Char) : Text :=
  if char = quote ∨ char = '\\' then ['\\', char]
  else if char = '\n' then ['\\', 'n']
  else if char = '\r' then ['\\', 'r']
  else if char = '\t' then ['\\', 't']
  else if isPrintable char then [char]
  else codeForm char.toNat

/-- The kind of quote that surrounds a text. -/
def quoteOf (text : Text) : Char :=
  if text.contains '\x27' && !text.contains '\x22' then '\x22' else '\x27'

/-- The quoted form of a text. -/
def encode (text : Text) : Text :=
  let quote := quoteOf text
  quote :: text.flatMap (charForm quote) ++ [quote]

/-- The form of one code point between quotes of the given kind. -/
def pointForm (quote : Char) : CodePoint -> Text
  | .character char => charForm quote char
  | point => codeForm point.toNat

/-- The quoted form of a text that holds surrogates. -/
def encodePoints (text : SurrogateText) : Text :=
  let quote := quoteOf (text.points.filterMap CodePoint.char?)
  quote :: text.points.flatMap (pointForm quote) ++ [quote]

end Quoted
end WildcardDiff
