/-!
# Double-precision numbers

Floating-point numbers with 53 bits of precision, as exact data: a finite number is a
sign, a natural mantissa and a power of two. Numbers are read from ratios by rounding to
the nearest representable one, a tie going to the even mantissa. No floating-point
operation of the machine is involved.
-/

namespace WildcardDiff

/-- A double-precision number. A finite one is `mantissa * 2 ^ exponent`, up to its
sign. -/
inductive Binary64
  | notANumber
  | infinite (negative : Bool)
  | finite (negative : Bool) (mantissa : Nat) (exponent : Int)
  deriving DecidableEq

namespace Binary64

/-- The exponent of the smallest positive number. -/
def leastExponent : Int := -1074

/-- The largest exponent of a finite number. -/
def greatestExponent : Int := 971

/-- The first mantissa that has one bit too many. -/
def mantissaLimit : Nat := Nat.pow 2 53

/-- A zero of the given sign. -/
def zero (negative : Bool) : Binary64 :=
  .finite negative 0 leastExponent

/-- Numerator and denominator of a ratio after division by a power of two. -/
def scale (numerator denominator : Nat) (exponent : Int) : Nat × Nat :=
  if exponent < 0 then
    (numerator * Nat.pow 2 exponent.natAbs, denominator)
  else
    (numerator, denominator * Nat.pow 2 exponent.natAbs)

/-- The natural number nearest to a ratio; a tie goes to the even neighbour. -/
def roundRatio (numerator denominator : Nat) : Nat :=
  let below := numerator / denominator
  let excess := 2 * (numerator % denominator)
  if excess < denominator then below
  else if excess = denominator then below + below % 2
  else below + 1

/-- The exponent at which a positive ratio has a mantissa of at most 53 bits, of which
none is wasted unless the exponent is the least one. -/
def ratioExponent (numerator denominator : Nat) : Int :=
  let low := max ((numerator.log2 : Int) - denominator.log2 - 53) leastExponent
  let (scaledNumerator, scaledDenominator) := scale numerator denominator low
  if mantissaLimit ≤ scaledNumerator / scaledDenominator then low + 1 else low

/-- The number nearest to a ratio with a positive denominator. -/
def ofRatio (negative : Bool) (numerator denominator : Nat) : Binary64 :=
  if numerator = 0 then
    zero negative
  else
    let exponent := ratioExponent numerator denominator
    let (scaledNumerator, scaledDenominator) := scale numerator denominator exponent
    let rounded := roundRatio scaledNumerator scaledDenominator
    let (mantissa, exponent) :=
      if rounded = mantissaLimit then (rounded / 2, exponent + 1) else (rounded, exponent)
    if greatestExponent < exponent then .infinite negative
    else .finite negative mantissa exponent

/-- The number nearest to `digits * 10 ^ exponent`. Numbers far outside the range are
settled by their size alone. -/
def ofDecimal (negative : Bool) (digits : Nat) (exponent : Int) : Binary64 :=
  let size : Int := (Nat.toDigits 10 digits).length + exponent
  if digits = 0 then zero negative
  else if 400 < size then .infinite negative
  else if size < -400 then zero negative
  else if exponent < 0 then ofRatio negative digits (Nat.pow 10 exponent.natAbs)
  else ofRatio negative (digits * Nat.pow 10 exponent.natAbs) 1

/-- The integer that a number equals, if it equals one. -/
def toInt? : Binary64 -> Option Int
  | .finite negative mantissa exponent =>
      let signed (magnitude : Nat) : Int :=
        if negative then -(magnitude : Int) else magnitude
      if 0 ≤ exponent then
        some (signed (mantissa * Nat.pow 2 exponent.natAbs))
      else if mantissa % Nat.pow 2 exponent.natAbs = 0 then
        some (signed (mantissa / Nat.pow 2 exponent.natAbs))
      else
        none
  | _ => none

/-- Numerator and denominator of the size of a finite number. -/
def ratio? : Binary64 -> Option (Nat × Nat)
  | .finite _ mantissa exponent =>
      if 0 ≤ exponent then some (mantissa * Nat.pow 2 exponent.natAbs, 1)
      else some (mantissa, Nat.pow 2 exponent.natAbs)
  | _ => none

/-- The number nearest to the sum of the sizes of two numbers, infinite if one of them
is. -/
def addSizes (left right : Binary64) : Binary64 :=
  match left.ratio?, right.ratio? with
  | some (leftPart, leftWhole), some (rightPart, rightWhole) =>
      ofRatio false (leftPart * rightWhole + rightPart * leftWhole)
        (leftWhole * rightWhole)
  | _, _ => .infinite false

/-- The number nearest to the product of the sizes of two numbers, infinite if one of them
is. -/
def mulSizes (left right : Binary64) : Binary64 :=
  match left.ratio?, right.ratio? with
  | some (leftPart, leftWhole), some (rightPart, rightWhole) =>
      ofRatio false (leftPart * rightPart) (leftWhole * rightWhole)
  | _, _ => .infinite false

/-- A number with a minus sign, if one is asked for. -/
def signed (negative : Bool) : Binary64 -> Binary64
  | .notANumber => .notANumber
  | .infinite _ => .infinite negative
  | .finite _ mantissa exponent => .finite negative mantissa exponent

/-- Whether a number is a zero of either sign. -/
def isZero : Binary64 -> Bool
  | .finite _ mantissa _ => mantissa = 0
  | _ => false

/-- Whether two numbers are equal. Zeros of both signs are; a number that is none equals
nothing, not even itself. -/
def same : Binary64 -> Binary64 -> Bool
  | .notANumber, _ => false
  | left, right => left = right || (left.isZero && right.isZero)

end Binary64
end WildcardDiff
