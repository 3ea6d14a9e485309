import WildcardDiff.Text.Case
import WildcardDiff.Text.Digit
import WildcardDiff.Decimal.Binary64

/-!
# Numerals

Reading of whole and fractional numbers. A numeral may have blanks around it, a sign in
front, single underscores between digits, and digits of any script. Whole numbers of more
than 4300 digits are refused, and are not written either.
-/

namespace WildcardDiff
namespace Numeral

/-- The most digits that a whole number may have. -/
def digitLimit : Nat := 4300

/-- Whether a whole number has few enough digits to be written. -/
def isWritable (value : Int) : Bool :=
  value.natAbs < Nat.pow 10 digitLimit

/-- A numeral in ASCII: other blanks become spaces and other digits become ASCII digits. A
text that is ASCII already stays as it is, and any other character refuses the text. -/
def toAscii? (text : Text) : Option Text :=
  if text.all (fun char => char.toNat < 128) then
    some text
  else
    text.mapM fun char =>
      if char.toNat < 127 then some char
      else if Blank.isBlank char then some ' '
      else (Digit.value? char).map Digit.ofValue

/-- The sign in front of a numeral, and the rest. -/
def sign : Text -> Bool × Text
  | '-' :: rest => (true, rest)
  | '+' :: rest => (false, rest)
  | text => (false, text)

/-- The digits of a text of digits, in which single underscores may stand between two
digits. -/
def grouped? : Text -> Option Text
  | [] => none
  | [digit] => (Digit.ascii? digit).map fun _ => [digit]
  | digit :: '_' :: rest =>
      (Digit.ascii? digit).bind fun _ => (grouped? rest).map (digit :: ·)
  | digit :: next :: rest =>
      (Digit.ascii? digit).bind fun _ => (grouped? (next :: rest)).map (digit :: ·)

/-- The whole number that a text writes. -/
def integer? (text : Text) : Option Int := do
  let (negative, rest) := sign (Blank.trim (← toAscii? text))
  let digits ← grouped? rest
  if digitLimit < digits.length then
    none
  else
    let magnitude : Int := Digit.number digits
    some (if negative then -magnitude else magnitude)

/-- A text without its underscores, if each of them stands between two digits. -/
def ungrouped? (previous : Char) : Text -> Option Text
  | [] => if previous = '_' then none else some []
  | char :: rest =>
      if char = '_' then
        if (Digit.ascii? previous).isSome then ungrouped? char rest else none
      else if previous = '_' && (Digit.ascii? char).isNone then
        none
      else
        (ungrouped? char rest).map (char :: ·)

/-- The exponent after the digits of a decimal: nothing, or a mark and digits. -/
def exponent? : Text -> Option Int
  | [] => some 0
  | mark :: rest =>
      let (negative, digits) := sign rest
      let isWritten := digits ≠ [] ∧ digits.all fun digit => (Digit.ascii? digit).isSome
      if (mark = 'e' ∨ mark = 'E') ∧ isWritten then
        let power : Int := Digit.number digits
        some (if negative then -power else power)
      else
        none

/-- An unsigned decimal: digits, a point among, before or after them, and an exponent. -/
def decimal? (negative : Bool) (text : Text) : Option Binary64 :=
  let isDigit (char : Char) : Bool := (Digit.ascii? char).isSome
  let whole := text.takeWhile isDigit
  let rest := text.dropWhile isDigit
  let (fraction, rest) :=
    match rest with
    | '.' :: after => (after.takeWhile isDigit, after.dropWhile isDigit)
    | _ => ([], rest)
  if whole ++ fraction = [] then
    none
  else
    (exponent? rest).map fun power =>
      .ofDecimal negative (Digit.number (whole ++ fraction)) (power - fraction.length)

/-- The fractional number that a text writes: a decimal, an infinity, or no number. -/
def float? (text : Text) : Option Binary64 := do
  let trimmed := Blank.trim (← toAscii? text)
  let (negative, rest) := sign (← ungrouped? ' ' trimmed)
  let name := String.ofList (Case.lowerText rest)
  if name = "inf" ∨ name = "infinity" then some (.infinite negative)
  else if name = "nan" then some .notANumber
  else decimal? negative rest

end Numeral
end WildcardDiff
