import WildcardDiff.Text.Digit
import WildcardDiff.Value.Moment
import WildcardDiff.Yaml.Cursor

/-!
# Moments in plain scalars

A plain scalar may write a day, as a year, a month and a day between dashes, and a time
after it. The digits of a day alone are eight. With a time, a month, a day or an hour
may have a single digit, and a fraction of the second and the distance from universal
time may follow. Whether the calendar has the moment is another question.
-/

namespace WildcardDiff
namespace Yaml
namespace Plain

/-- The digits in front of a text, and the rest. -/
def splitDigits (text : Text) : Text × Text :=
  text.span fun char => (Digit.ascii? char).isSome

/-- The number that the digits in front of a text write if their count is allowed, and the
rest. -/
def counted? (counts : List Nat) (text : Text) : Option (Nat × Text) :=
  let (digits, rest) := splitDigits text
  if counts.contains digits.length then some (Digit.number digits, rest) else none

/-- The rest of a text after a mark in front of it. -/
def after? (mark : Char) : Text -> Option Text
  | [] => none
  | char :: rest => if char = mark then some rest else none

/-- The distance from universal time that a text writes in minutes, which is known only
if a text is there. -/
def offset? (text : Text) : Option (Option Int) :=
  match text.dropWhile isSpace with
  | [] => if text = [] then some none else none
  | ['Z'] => some (some 0)
  | sign :: rest => do
      if sign ≠ '+' ∧ sign ≠ '-' then failure
      let (hours, rest) ← counted? [1, 2] rest
      let (minutes, rest) ←
        if rest = [] then pure (0, []) else (after? ':' rest).bind (counted? [2])
      if rest ≠ [] then failure
      let distance : Int := 60 * hours + minutes
      return some (if sign = '-' then -distance else distance)

/-- The number of microseconds that the digits after a point write; those after the
sixth do not count. -/
def microseconds (digits : Text) : Nat :=
  Digit.number ((digits ++ List.replicate 6 '0').take 6)

/-- The time that a text writes. -/
def time? (text : Text) : Option ClockTime := do
  let (hour, rest) ← counted? [1, 2] text
  let (minute, rest) ← (after? ':' rest).bind (counted? [2])
  let (second, rest) ← (after? ':' rest).bind (counted? [2])
  let (fraction, rest) := ((after? '.' rest).map splitDigits).getD ([], rest)
  return ⟨hour, minute, second, microseconds fraction, ← offset? rest⟩

/-- The text of the time after a day: a mark or blanks have to stand between them. -/
def timeText? (text : Text) : Option Text :=
  match text with
  | [] => none
  | char :: rest =>
      if char = 'T' ∨ char = 't' then some rest
      else if isSpace char then some (rest.dropWhile isSpace)
      else none

/-- The number of characters that a day alone has. -/
def dayLength : Nat := 10

/-- The moment that a plain scalar writes, whether the calendar has it or not. -/
def moment? (text : Text) : Option Moment := do
  let (year, rest) ← counted? [4] text
  let (month, rest) ← (after? '-' rest).bind (counted? [1, 2])
  let (day, rest) ← (after? '-' rest).bind (counted? [1, 2])
  if rest = [] then
    if text.length = dayLength then some ⟨year, month, day, none⟩ else none
  else
    return ⟨year, month, day, some (← time? (← timeText? rest))⟩

end Plain
end Yaml
end WildcardDiff
