import TypedResources.Calendar

-- Dates, and dates with a time of day, as they are written in a stream.

namespace TypedResources.Yaml

-- A date, and perhaps a time of day with its distance to universal time in minutes.
structure Timestamp where
  moment  : Moment
  hasTime : Bool       := false
  zone    : Option Int := none
deriving DecidableEq

namespace Timestamp

-- A number of at least `least` and at most `most` digits, and what follows it.
def digits? (least most : Nat) (s : List Char) : Option (Nat × List Char) :=
  let run := (s.take most).takeWhile Char.isDigit
  if run.length < least then none
  else some (run.foldl (fun n c => n * 10 + (c.toNat - '0'.toNat)) 0, s.drop run.length)

def char? (c : Char) : List Char → Option (List Char)
  | d :: t => if c = d then some t else none
  | []     => none

def isBlank (c : Char) : Bool :=
  c = ' ' || c = '\t'

-- What stands between a date and a time of day: one letter, or blanks.
def separator? (s : List Char) : Option (List Char) :=
  match s with
  | 'T' :: t => some t
  | 't' :: t => some t
  | c :: t   => if isBlank c then some (t.dropWhile isBlank) else none
  | []       => none

-- The distance to universal time at the end of a text, if there is one.
def zone? (s : List Char) : Option (Option Int) :=
  match s.dropWhile isBlank with
  | ['Z']    => some (some 0)
  | c :: t   => do
    if c ≠ '+' && c ≠ '-' then none
    let (hours, t) ← digits? 1 2 t
    let (minutes, t) ← if t = [] then some (0, []) else (char? ':' t).bind (digits? 2 2)
    if t ≠ [] then none
    let span : Int := hours * 60 + minutes
    some (some (if c = '-' then -span else span))
  | []       => if s = [] then some none else none

-- A line feed may end the text.
def ofText? (text : List Char) : Option Timestamp := do
  let text := if text.getLast? = some '\n' then text.dropLast else text
  let (year, s) ← digits? 4 4 text
  let (month, s) ← (char? '-' s).bind (digits? 1 2)
  let (day, s) ← (char? '-' s).bind (digits? 1 2)
  if s = [] then return { moment := ⟨year, month, day, 0, 0, 0⟩ }
  let (hour, s) ← (separator? s).bind (digits? 1 2)
  let (minute, s) ← (char? ':' s).bind (digits? 2 2)
  let (second, s) ← (char? ':' s).bind (digits? 2 2)
  let s := if s.head? = some '.' then s.tail.dropWhile Char.isDigit else s
  let zone ← zone? s
  return ⟨⟨year, month, day, hour, minute, second⟩, true, zone⟩

-- Whether a text is taken for a timestamp without being told so. A date alone has all its digits.
def isImplicit (text : List Char) : Bool :=
  match ofText? text with
  | some t => t.hasTime || text.length = 10
  | none   => false

-- What is wrong with the distance to universal time, or else with the moment.
def fault? (t : Timestamp) : Option CalendarFault :=
  let span := t.zone.getD 0
  if CalendarFault.minutesPerDay ≤ span.natAbs then some (.zone span) else t.moment.fault?

end Timestamp

end TypedResources.Yaml
