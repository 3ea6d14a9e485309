import WildcardDiff.Text.Digit
import WildcardDiff.Decimal.Binary64

/-!
# Shortest decimals

The decimal form of a double-precision number: the fewest digits that read back as the
same number, and of those the digits nearest to it. Exponents from -4 to 15 are written
positionally and always with a point; others in scientific notation.
-/

namespace WildcardDiff
namespace Shortest

/-- A decimal number `digits * 10 ^ exponent`. -/
structure Decimal where
  digits : Nat
  exponent : Int
  deriving DecidableEq

/-- The number of decimal digits before the point of `mantissa * 2 ^ exponent`; zero or
less, by the zeros after the point, if it is below one. -/
def magnitude (mantissa : Nat) (exponent : Int) : Int :=
  let (numerator, denominator) := Binary64.scale mantissa 1 (-exponent)
  if denominator ≤ numerator then
    (Nat.toDigits 10 (numerator / denominator)).length
  else
    let zeros := (List.range 400).find? fun zeros =>
      denominator ≤ numerator * Nat.pow 10 (zeros + 1)
    Int.negOfNat (zeros.getD 0)

/-- A decimal as a ratio, counted in quarters of `2 ^ exponent`. -/
def Decimal.quarters (decimal : Decimal) (exponent : Int) : Nat × Nat :=
  let tens := Nat.pow 10 decimal.exponent.natAbs
  if decimal.exponent < 0 then
    Binary64.scale decimal.digits tens (exponent - 2)
  else
    Binary64.scale (decimal.digits * tens) 1 (exponent - 2)

/-- Quarters between a number and the point halfway to its lower neighbour. -/
def lowerGap (mantissa : Nat) (exponent : Int) : Nat :=
  if mantissa = Nat.pow 2 52 ∧ exponent ≠ Binary64.leastExponent then 1 else 2

/-- Whether a decimal rounds to `mantissa * 2 ^ exponent`. The halfway points do so
exactly when the mantissa is even. -/
def Decimal.roundsTo (decimal : Decimal) (mantissa : Nat) (exponent : Int) : Bool :=
  let (numerator, denominator) := decimal.quarters exponent
  let low := (4 * mantissa - lowerGap mantissa exponent) * denominator
  let high := (4 * mantissa + 2) * denominator
  if mantissa % 2 = 0 then low ≤ numerator && numerator ≤ high
  else low < numerator && numerator < high

/-- Whether a decimal is at least as near to `mantissa * 2 ^ exponent` as another. -/
def Decimal.nearer (left right : Decimal) (mantissa : Nat) (exponent : Int) : Bool :=
  let distance (decimal : Decimal) : Nat × Nat :=
    let (numerator, denominator) := decimal.quarters exponent
    let center := 4 * mantissa * denominator
    (max numerator center - min numerator center, denominator)
  let (leftNumerator, leftDenominator) := distance left
  let (rightNumerator, rightDenominator) := distance right
  let leftCross := leftNumerator * rightDenominator
  let rightCross := rightNumerator * leftDenominator
  leftCross < rightCross || (leftCross = rightCross && left.digits % 2 = 0)

/-- The best decimal of a given number of digits that rounds to `mantissa * 2 ^ exponent`:
one of the two neighbours on the grid. -/
def best? (mantissa : Nat) (exponent : Int) (count : Nat) : Option Decimal :=
  let step := magnitude mantissa exponent - count
  let (numerator, denominator) := Binary64.scale mantissa 1 (-exponent)
  let below :=
    if step < 0 then numerator * Nat.pow 10 step.natAbs / denominator
    else numerator / (denominator * Nat.pow 10 step.natAbs)
  let lower : Decimal := ⟨below, step⟩
  let upper : Decimal := ⟨below + 1, step⟩
  match lower.roundsTo mantissa exponent, upper.roundsTo mantissa exponent with
  | true, true => some (if lower.nearer upper mantissa exponent then lower else upper)
  | true, false => some lower
  | false, true => some upper
  | false, false => none

/-- The shortest decimal that rounds to a positive number. -/
def shortest (mantissa : Nat) (exponent : Int) : Decimal :=
  ((List.range 17).findSome? fun count => best? mantissa exponent (count + 1)).getD ⟨0, 0⟩

/-- The digits of a decimal without the zeros at its end, and the place of its point,
counted from the first digit. -/
def Decimal.layout (decimal : Decimal) : Text × Int :=
  let digits := Digit.ofNat decimal.digits
  ((digits.reverse.dropWhile (· = '0')).reverse, digits.length + decimal.exponent)

/-- Digits in scientific notation. -/
def scientific (digits : Text) (exponent : Int) : Text :=
  let power := Digit.ofNat exponent.natAbs
  let mark := if exponent < 0 then '-' else '+'
  let fraction := if digits.length ≤ 1 then [] else '.' :: digits.drop 1
  digits.take 1 ++ fraction ++ ['e', mark] ++
    List.replicate (2 - power.length) '0' ++ power

/-- Digits in positional notation, with the point at the given place. -/
def positional (digits : Text) (point : Int) : Text :=
  if point ≤ 0 then
    ['0', '.'] ++ List.replicate point.natAbs '0' ++ digits
  else if digits.length ≤ point.natAbs then
    digits ++ List.replicate (point.natAbs - digits.length) '0' ++ ['.', '0']
  else
    digits.take point.natAbs ++ ['.'] ++ digits.drop point.natAbs

/-- The form of a positive number. -/
def positive (mantissa : Nat) (exponent : Int) : Text :=
  let (digits, point) := (shortest mantissa exponent).layout
  if -4 < point ∧ point ≤ 16 then positional digits point
  else scientific digits (point - 1)

end Shortest

/-- The decimal form of a double-precision number. -/
def Binary64.written : Binary64 -> Text
  | .notANumber => ['n', 'a', 'n']
  | .infinite negative => (if negative then ['-'] else []) ++ ['i', 'n', 'f']
  | .finite negative mantissa exponent =>
      (if negative then ['-'] else []) ++
        if mantissa = 0 then ['0', '.', '0'] else Shortest.positive mantissa exponent

end WildcardDiff
