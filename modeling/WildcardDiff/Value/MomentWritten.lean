import WildcardDiff.Text.Digit
import WildcardDiff.Value.Moment

/-!
# Moments in messages

The two forms in which messages show a moment. The plain form is that of calendars and
clocks, in numbers of a fixed width. The quoted form lists the parts of the moment between
brackets, after the name of its kind.
-/

namespace WildcardDiff

/-- A number with at least a given count of digits. -/
def padded (count number : Nat) : Text :=
  let digits := Digit.ofNat number
  List.replicate (count - digits.length) '0' ++ digits

/-- Numbers of two digits with a separator between neighbours. -/
def pairsOfDigits (separator : Char) (numbers : List Nat) : Text :=
  Text.join [separator] (numbers.map (padded 2))

/-- The plain form of a time of a day. -/
def ClockTime.written (time : ClockTime) : Text :=
  let fraction :=
    if time.microsecond = 0 then [] else '.' :: padded 6 time.microsecond
  let offset :=
    match time.offset with
    | none => []
    | some minutes =>
        (if minutes < 0 then '-' else '+') ::
          pairsOfDigits ':' [minutes.natAbs / 60, minutes.natAbs % 60]
  pairsOfDigits ':' [time.hour, time.minute, time.second] ++ fraction ++ offset

/-- The plain form of a moment. -/
def Moment.written (moment : Moment) : Text :=
  let time :=
    match moment.time with
    | some time => ' ' :: time.written
    | none => []
  padded 4 moment.year ++ ['-'] ++ pairsOfDigits '-' [moment.month, moment.day] ++ time

/-- A name with parts between brackets after it. -/
def called (name : String) (parts : List Text) : Text :=
  name.toList ++ ['('] ++ Text.join [',', ' '] parts ++ [')']

/-- The quoted form of a distance from universal time in minutes. A negative one goes a
day back and from there forward. -/
def quotedOffset (minutes : Int) : Text :=
  let days := if minutes < 0 then ["days=-1".toList] else []
  let seconds := "seconds=".toList ++ Digit.ofInt (60 * (minutes % (24 * 60)))
  if minutes = 0 then "datetime.timezone.utc".toList
  else called "datetime.timezone" [called "datetime.timedelta" (days ++ [seconds])]

/-- The parts of a time of a day in its quoted form: numbers, without a zero of the
microseconds or of them and the seconds, and the distance from universal time. -/
def ClockTime.quotedParts (time : ClockTime) : List Text :=
  let numbers :=
    if time.microsecond ≠ 0 then [time.hour, time.minute, time.second, time.microsecond]
    else if time.second ≠ 0 then [time.hour, time.minute, time.second]
    else [time.hour, time.minute]
  numbers.map Digit.ofNat ++
    (time.offset.map fun minutes => "tzinfo=".toList ++ quotedOffset minutes).toList

/-- The quoted form of a moment. -/
def Moment.quoted (moment : Moment) : Text :=
  let day := [moment.year, moment.month, moment.day].map Digit.ofNat
  match moment.time with
  | none => called "datetime.date" day
  | some time => called "datetime.datetime" (day ++ time.quotedParts)

end WildcardDiff
