-- Moments of the civil calendar, and which of them there are.

namespace TypedResources

structure Moment where
  year   : Nat
  month  : Nat
  day    : Nat
  hour   : Nat := 0
  minute : Nat := 0
  second : Nat := 0
deriving DecidableEq

-- What makes a date or a time of day impossible.
inductive CalendarFault
  | year (n : Nat)
  | month
  | day
  | hour
  | minute
  | second
  -- The distance to universal time, in minutes, is a day or more.
  | zone (minutes : Int)
  -- What should be a moment is more than a text.
  | noText
deriving DecidableEq

def isLeapYear (y : Nat) : Bool :=
  y % 4 = 0 && (y % 100 ≠ 0 || y % 400 = 0)

def daysInMonth (y m : Nat) : Nat :=
  if m = 2 then (if isLeapYear y then 29 else 28)
  else if m = 4 || m = 6 || m = 9 || m = 11 then 30
  else 31

-- The first thing that is wrong with a moment, from the year down to the second.
def Moment.fault? (t : Moment) : Option CalendarFault :=
  if t.year < 1 || 9999 < t.year then some (.year t.year)
  else if t.month < 1 || 12 < t.month then some .month
  else if t.day < 1 || daysInMonth t.year t.month < t.day then some .day
  else if 23 < t.hour then some .hour
  else if 59 < t.minute then some .minute
  else if 59 < t.second then some .second
  else none

namespace CalendarFault

def minutesPerDay : Int := 24 * 60

-- A span of minutes as days and the seconds beyond them, which are never negative.
def spanText (minutes : Int) : String :=
  let days    := minutes / minutesPerDay
  let seconds := minutes % minutesPerDay * 60
  "datetime.timedelta(days=" ++ toString days ++
    (if seconds = 0 then "" else ", seconds=" ++ toString seconds) ++ ")"

def message : CalendarFault → String
  | year n => "year " ++ toString n ++ " is out of range"
  | month  => "month must be in 1..12"
  | day    => "day is out of range for month"
  | hour   => "hour must be in 0..23"
  | minute => "minute must be in 0..59"
  | second => "second must be in 0..59"
  | zone m =>
    "offset must be a timedelta strictly between -timedelta(hours=24) and timedelta(hours=24), not " ++
      spanText m ++ "."
  | noText => "expected string or bytes-like object, got 'list'"

end CalendarFault

end TypedResources
