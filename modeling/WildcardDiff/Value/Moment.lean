/-!
# Moments

Days and times on them. The calendar has a day if its month does; February has one more
in leap years. Years run from 1 to 9999, and a clock differs from universal time by less
than a day. Two times on clocks whose distance from universal time is known are the same
moment if they are the same time there.
-/

namespace WildcardDiff

/-- A time of a day, with the distance of its clock from universal time in minutes if that
is known. -/
structure ClockTime where
  hour : Nat
  minute : Nat
  second : Nat
  microsecond : Nat
  offset : Option Int
  deriving DecidableEq

/-- A day, and a time on it if one is given. -/
structure Moment where
  year : Nat
  month : Nat
  day : Nat
  time : Option ClockTime
  deriving DecidableEq

/-- Whether a clock shows a time, and differs from universal time by less than a day. -/
def ClockTime.isOnClock (time : ClockTime) : Bool :=
  time.hour < 24 && time.minute < 60 && time.second < 60 && time.microsecond < 1000000 &&
    time.offset.all fun minutes => minutes.natAbs < 24 * 60

namespace Moment

/-- Whether February has a 29th day. -/
def isLeapYear (year : Nat) : Bool :=
  year % 4 = 0 && (year % 100 ≠ 0 || year % 400 = 0)

/-- The number of days that a month has. -/
def monthLength (year month : Nat) : Nat :=
  if month = 2 then (if isLeapYear year then 29 else 28)
  else if [4, 6, 9, 11].contains month then 30
  else 31

/-- The number of days in the years before a year. -/
def daysBeforeYear (year : Nat) : Nat :=
  let past := year - 1
  365 * past + past / 4 - past / 100 + past / 400

/-- The number of days in the months of a year before a month. -/
def daysBeforeMonth (year month : Nat) : Nat :=
  (List.range (month - 1)).foldl (fun days index => days + monthLength year (index + 1)) 0

/-- The number of microseconds that the clocks of universal time show since the calendar
began, if the clock of a moment differs from them by so many minutes. -/
def universal (moment : Moment) (time : ClockTime) (offset : Int) : Int :=
  let days :=
    daysBeforeYear moment.year + daysBeforeMonth moment.year moment.month + moment.day
  let minutes : Int := (24 * days + time.hour) * 60 + time.minute
  ((minutes - offset) * 60 + time.second) * 1000000 + time.microsecond

/-- Whether two moments are the same. Times whose distance from universal time is known
are compared there, and all others as they are. -/
def same (left right : Moment) : Bool :=
  match left.time, right.time with
  | some leftTime, some rightTime =>
      match leftTime.offset, rightTime.offset with
      | some leftOffset, some rightOffset =>
          left.universal leftTime leftOffset = right.universal rightTime rightOffset
      | _, _ => left = right
  | _, _ => left = right

@[simp] theorem same_self (moment : Moment) : moment.same moment = true := by
  unfold same
  split
  · split <;> simp_all
  · simp

/-- Whether the calendar has the day of a moment, and a clock shows its time. -/
def isOnCalendar (moment : Moment) : Bool :=
  1 ≤ moment.year && moment.year ≤ 9999 && 1 ≤ moment.month && moment.month ≤ 12 &&
    1 ≤ moment.day && moment.day ≤ monthLength moment.year moment.month &&
    moment.time.all ClockTime.isOnClock

end Moment
end WildcardDiff
