import TypedResources.Report
import TypedResources.Run

-- The time of a run: a count of nanoseconds since the beginning of 1970, turned into a moment of the
-- calendar and into the texts that reports, cache records and transcripts hold. All are in universal
-- time.

namespace TypedResources

namespace Moment

def secondsPerDay : Int := 24 * 60 * 60

-- Days from the first of March of the year zero to the beginning of 1970. Counted from a first of
-- March, a leap day is the last day of its year.
def daysToEpoch : Int := 719468

def daysPerEra : Int := 146097

-- The year and the month, both counted from March, and the day, from a number of days within four
-- hundred years.
def ofDayOfEra (n : Nat) : Nat × Nat × Nat :=
  let year  := (n - n / 1460 + n / 36524 - n / 146096) / 365
  let day   := n - (365 * year + year / 4 - year / 100)
  let month := (5 * day + 2) / 153
  (year, month, day - (153 * month + 2) / 5 + 1)

-- The moment that is so many seconds after the beginning of 1970.
def ofSeconds (seconds : Int) : Moment :=
  let days   := seconds / secondsPerDay + daysToEpoch
  let second := (seconds % secondsPerDay).toNat
  let (year, month, day) := ofDayOfEra (days % daysPerEra).toNat
  let year   := year + (400 * (days / daysPerEra)).toNat
  ⟨if month < 10 then year else year + 1, if month < 10 then month + 3 else month - 9, day,
    second / 3600, second / 60 % 60, second % 60⟩

end Moment

namespace Clock

def nanosecondsPerSecond : Int := 1000000000

-- A number filled up with zeros to a width.
def padded (width n : Nat) : String :=
  String.ofList (List.replicate (width - (Nat.toDigits 10 n).length) '0' ++ Nat.toDigits 10 n)

def dateText (t : Moment) : String :=
  padded 4 t.year ++ "-" ++ padded 2 t.month ++ "-" ++ padded 2 t.day

def timeText (t : Moment) : String :=
  padded 2 t.hour ++ ":" ++ padded 2 t.minute ++ ":" ++ padded 2 t.second

-- How much of its second has passed, in parts of which a second has `parts`.
def fraction (time : Int) (parts : Nat) : Nat :=
  (time % nanosecondsPerSecond).toNat * parts / nanosecondsPerSecond.toNat

-- A session on a disk that begins at a time.
def session (d : Disk) (time : Int) : Session :=
  let moment := Moment.ofSeconds (time / nanosecondsPerSecond)
  { disk      := d
    time      := time
    date      := Report.dateLine moment
    stamp     := dateText moment ++ "T" ++ timeText moment ++ "." ++ padded 6 (fraction time 1000000) ++ "Z"
    lineStamp := dateText moment ++ " " ++ timeText moment ++ "," ++ padded 3 (fraction time 1000) }

end Clock

end TypedResources
