import DocumentStream.Text

/-!
Dates and times, which configuration files can hold. A moment is a date, a time of day, or both, in
which case the offset from universal time may be known. There are two forms of it in texts: the
literal in messages, and the plain one.
-/

namespace DocumentStream

namespace Date

def isLeapYear (year : Nat) : Bool := year % 4 == 0 && (year % 100 != 0 || year % 400 == 0)

def daysIn (year month : Nat) : Nat :=
  if month = 2 then if isLeapYear year then 29 else 28
  else if [4, 6, 9, 11].contains month then 30
  else 31

/-- Whether there is such a date. Years have at most four digits, and there is no year zero. -/
def isDate (year month day : Nat) : Bool :=
  0 < year && year < 10000 && 0 < month && month ≤ 12 && 0 < day && day ≤ daysIn year month

end Date

structure Date where
  year : Nat
  month : Nat
  day : Nat
  valid : Date.isDate year month day = true
  deriving DecidableEq, Repr

structure ClockTime where
  hour : Fin 24
  minute : Fin 60
  second : Fin 60
  microsecond : Fin 1000000
  deriving DecidableEq, Repr

/-- The distance from universal time in minutes, less than a day. -/
structure TimeOffset where
  minutes : Int
  lessThanDay : minutes.natAbs < 24 * 60
  deriving DecidableEq, Repr

inductive Moment where
  | date (day : Date)
  | time (clock : ClockTime)
  | dateTime (day : Date) (clock : ClockTime) (offset : Option TimeOffset)
  deriving DecidableEq, Repr

namespace Text

/-- A number in decimal, with zeros in front up to the given width. -/
def padded (width n : Nat) : Text :=
  let digits := ofNat n
  List.replicate (width - digits.length) '0' ++ digits

end Text

def Date.ofNumbers? (year month day : Nat) : Option Date :=
  if h : Date.isDate year month day = true then some ⟨year, month, day, h⟩ else none

def Date.numbers (date : Date) : List Nat := [date.year, date.month, date.day]

/-- The days in the first months of a year. -/
def Date.daysThrough (year : Nat) : (months : Nat) → Nat
  | 0 => 0
  | months + 1 => daysThrough year months + daysIn year (months + 1)

/-- The days up to a date and with it, from the beginning of the first year. -/
def Date.ordinal (date : Date) : Nat :=
  let years := date.year - 1
  365 * years + years / 4 - years / 100 + years / 400 + daysThrough date.year (date.month - 1) +
    date.day

def Date.display (date : Date) : Text :=
  Text.padded 4 date.year ++ '-' :: Text.padded 2 date.month ++ '-' :: Text.padded 2 date.day

namespace ClockTime

/-- The numbers of a time in its literal. Seconds and microseconds are left out if they are zero
and nothing follows. -/
def numbers (time : ClockTime) : List Nat :=
  if time.microsecond.val = 0 then
    if time.second.val = 0 then [time.hour, time.minute]
    else [time.hour, time.minute, time.second]
  else
    [time.hour, time.minute, time.second, time.microsecond]

/-- The microseconds since midnight. -/
def sinceMidnight (time : ClockTime) : Nat :=
  ((time.hour * 60 + time.minute) * 60 + time.second) * 1000000 + time.microsecond

def display (time : ClockTime) : Text :=
  Text.padded 2 time.hour ++ ':' :: Text.padded 2 time.minute ++ ':' ::
    Text.padded 2 time.second ++
    if time.microsecond.val = 0 then [] else '.' :: Text.padded 6 time.microsecond

end ClockTime

namespace TimeOffset

def universal : TimeOffset := ⟨0, by decide⟩

/-- The literal of an offset, in whole days and the seconds that are left. -/
def literal (offset : TimeOffset) : Text :=
  if offset.minutes = 0 then
    "datetime.timezone.utc".toList
  else
    let seconds := Text.ofInt (60 * (offset.minutes % (24 * 60)))
    "datetime.timezone(datetime.timedelta(".toList ++
      (if offset.minutes < 0 then "days=-1, ".toList else []) ++ "seconds=".toList ++ seconds ++
      "))".toList

def display (offset : TimeOffset) : Text :=
  (if offset.minutes < 0 then '-' else '+') :: Text.padded 2 (offset.minutes.natAbs / 60) ++
    ':' :: Text.padded 2 (offset.minutes.natAbs % 60)

end TimeOffset

namespace Moment

/-- The microsecond at which a moment is in universal time, if its offset is known. -/
def instant? : Moment → Option Int
  | .dateTime day clock (some offset) =>
    some ((day.ordinal * (24 * 60) - offset.minutes) * 60000000 + clock.sinceMidnight)
  | _ => none

/-- The name of the kind of a moment, as messages spell it. -/
def kindName : Moment → String
  | .date _ => "date"
  | .time _ => "time"
  | .dateTime .. => "datetime"

def literal (moment : Moment) : Text :=
  let arguments := match moment with
    | .date day => day.numbers.map Text.ofNat
    | .time clock => clock.numbers.map Text.ofNat
    | .dateTime day clock offset =>
      (day.numbers ++ clock.numbers).map Text.ofNat ++
        (offset.map fun offset => "tzinfo=".toList ++ offset.literal).toList
  "datetime.".toList ++ moment.kindName.toList ++ '(' :: Text.join [',', ' '] arguments ++ [')']

def display : Moment → Text
  | .date day => day.display
  | .time clock => clock.display
  | .dateTime day clock offset =>
    day.display ++ ' ' :: clock.display ++ (offset.map TimeOffset.display).getD []

end Moment

end DocumentStream
