import WildcardDiff.Decimal.Numeral
import WildcardDiff.Value.Basic
import WildcardDiff.Yaml.Fault
import WildcardDiff.Yaml.Moment

/-!
# Plain scalars

What a plain scalar means: a null, a truth value, a number, a moment, or the text itself.
Numbers may have underscores among their digits. Whole numbers are written to base ten, to
base two, eight or sixteen after a mark, or to base sixty with colons, and so are numbers
with a point to base ten or sixty.
-/

namespace WildcardDiff
namespace Yaml
namespace Plain

/-- The scalars that mean a null. -/
def nulls : List String := ["", "~", "null", "Null", "NULL"]

/-- The scalars that mean the true value. -/
def trueNames : List String :=
  ["yes", "Yes", "YES", "true", "True", "TRUE", "on", "On", "ON"]

/-- The scalars that mean the false value. -/
def falseNames : List String :=
  ["no", "No", "NO", "false", "False", "FALSE", "off", "Off", "OFF"]

/-- The scalar that, as a key, stands for a default value. -/
def defaultMark : String := "="

/-- The scalar that, as a key, merges other mappings into its own. -/
def mergeMark : String := "<<"

/-- Whether a character is a digit to a base, or an underscore. -/
def isDigitIn (base : Nat) (char : Char) : Bool :=
  char = '_' || (Digit.hex? char).any (· < base)

/-- Whether a text consists of digits to a base and underscores. -/
def isDigits (base : Nat) (text : Text) : Bool :=
  text ≠ [] && text.all (isDigitIn base)

/-- The number that digits to a base write among underscores. There has to be a digit,
and to base ten there may not be too many. -/
def number (base : Nat) (text : Text) : Except Fault Nat :=
  let values := text.filterMap Digit.hex?
  if values = [] ∨
    (base = 10 ∧ Numeral.digitLimit < values.length) then .error .nonexistent
  else .ok (Digit.numberIn base values)

/-- The number that a text of digits to a base writes, if it is one. -/
def number? (base : Nat) (text : Text) : Option (Except Fault Nat) :=
  if isDigits base text then some (number base text) else none

/-- Whether one or two digits write a number below sixty. -/
def isSixtieth (text : Text) : Bool :=
  match text with
  | [digit] => (Digit.ascii? digit).isSome
  | [tens, digit] => '0' ≤ tens && tens ≤ '5' && (Digit.ascii? digit).isSome
  | _ => false

/-- The parts between colons of a number to base sixty, or to base ten if there are no
colons. Only the first part may be larger than the base allows. -/
def sixtyParts? (text : Text) : Option (List Text) :=
  match Text.splitAtChar ':' text with
  | [] => none
  | first :: parts =>
      if isDigits 10 first && first.head? ≠ some '_' && parts.all isSixtieth then
        some (first :: parts)
      else
        none

/-- The number that parts between colons give to base sixty. -/
def sixties? (text : Text) : Option (Except Fault Nat) :=
  (sixtyParts? text).map fun parts => (parts.mapM (number 10)).map (Digit.numberIn 60)

/-- The whole number that a text without a sign writes. -/
def magnitude? : Text -> Option (Except Fault Nat)
  | '0' :: 'b' :: rest => number? 2 rest
  | '0' :: 'x' :: rest => number? 16 rest
  | '0' :: rest => number? 8 ('0' :: rest)
  | text => sixties? text

/-- The whole number that a scalar writes. -/
def integer? (text : Text) : Option (Except Fault Int) :=
  let (isNegative, rest) := Numeral.sign text
  (magnitude? rest).map fun magnitude =>
    magnitude.map fun value => if isNegative then -(value : Int) else value

/-- Whether a text is the exponent of a number, with a sign, or empty. -/
def isExponent : Text -> Bool
  | [] => true
  | mark :: sign :: digits =>
      (mark = 'e' || mark = 'E') && (sign = '+' || sign = '-') && digits ≠ [] &&
        digits.all fun char => (Digit.ascii? char).isSome
  | _ => false

/-- Whether a text without a sign is a number with a point. -/
def isDecimal (text : Text) : Bool :=
  let isDigit (char : Char) : Bool := (Digit.ascii? char).isSome
  let isPart (char : Char) : Bool := isDigit char || char = '_'
  match text.dropWhile isPart with
  | '.' :: fraction =>
      let hasDigit := if text.head? = some '.' then fraction else text
      hasDigit.head?.any isDigit && isExponent (fraction.dropWhile isPart)
  | _ => false

/-- The sum of numbers, each times a power of sixty by its place from the last on. Every
step rounds, and a power beyond all numbers cannot be handled. -/
def sumSixties (parts : List Binary64) : Except Fault Binary64 :=
  let places := List.range parts.length
  (parts.reverse.zip places).foldlM (fun total part =>
    match Binary64.ofRatio false (Nat.pow 60 part.2) 1 with
    | .infinite _ => .error .oversized
    | power => .ok (total.addSizes (part.1.mulSizes power))) (Binary64.zero false)

/-- The number with a point in its last part that parts between colons give to base
sixty. -/
def fractionalSixties? (text : Text) : Option (Except Fault Binary64) :=
  match Text.splitAtChar '.' text with
  | [front, fraction] => do
      let parts ← sixtyParts? front
      if parts.length < 2 ∨ !fraction.all (isDigitIn 10) then failure
      let last := parts.getLast?.getD [] ++ '.' :: fraction
      let numbers ← (parts.dropLast ++ [last]).mapM fun part =>
        Numeral.decimal? false (part.filter (· ≠ '_'))
      return sumSixties numbers
  | _ => none

/-- The number with a point that a scalar writes. A number that begins with its point
has no sign. -/
def fraction? (text : Text) : Option (Except Fault Binary64) :=
  let (isNegative, rest) := Numeral.sign text
  if [".inf", ".Inf", ".INF"].contains (String.ofList rest) then
    some (.ok (.infinite isNegative))
  else if [".nan", ".NaN", ".NAN"].contains (String.ofList text) then
    some (.ok .notANumber)
  else if isDecimal rest && (rest.head? ≠ some '.' || rest = text) then
    (Numeral.decimal? isNegative (rest.filter (· ≠ '_'))).map .ok
  else
    (fractionalSixties? rest).map fun result => result.map (Binary64.signed isNegative)

/-- The value of a moment, if the calendar has it. -/
def momentValue (moment : Moment) : Except Fault Value :=
  if moment.isOnCalendar then .ok (.moment moment) else .error .nonexistent

/-- The value that a plain scalar means. The marks of defaults and merges are no
values. -/
def value (text : Text) : Except Fault Value :=
  let name := String.ofList text
  if nulls.contains name then .ok .null
  else if trueNames.contains name then .ok (.bool true)
  else if falseNames.contains name then .ok (.bool false)
  else if name = defaultMark ∨ name = mergeMark then .error .malformed
  else
    match integer? text, fraction? text, moment? text with
    | some number, _, _ => number.map .int
    | none, some number, _ => number.map .float
    | none, none, some moment => momentValue moment
    | none, none, none => .ok (.ofText text)

end Plain
end Yaml
end WildcardDiff
