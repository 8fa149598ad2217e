import LinkedDocs.Text.Basic

/-!
# Dates and moments

Days of the calendar and moments within them. A moment may say by how much its clock is ahead of
universal time; two moments that both do are compared as points in time.
-/

namespace LinkedDocs

/-- A day of the calendar. -/
structure Date where
  year : Nat
  month : Nat
  day : Nat
deriving DecidableEq, Repr

namespace Date

def isLeapYear (year : Nat) : Bool :=
  year % 4 = 0 && (year % 100 ≠ 0 || year % 400 = 0)

def daysIn (year month : Nat) : Nat :=
  if month = 2 then (if isLeapYear year then 29 else 28)
  else if [4, 6, 9, 11].contains month then 30
  else 31

/-- What is wrong with the date, if the calendar does not have it. -/
def flaw? (d : Date) : Option Text :=
  if d.year = 0 then some "year 0 is out of range".toList
  else if d.month = 0 ∨ 12 < d.month then some "month must be in 1..12".toList
  else if d.day = 0 ∨ daysIn d.year d.month < d.day then
    some "day is out of range for month".toList
  else none

/-- The number of the day, the first day of the first year being day one. -/
def number (d : Date) : Nat :=
  let years := d.year - 1
  let months := (List.range (d.month - 1)).foldl (fun days m => days + daysIn d.year (m + 1)) 0
  365 * years + years / 4 - years / 100 + years / 400 + months + d.day

/-- The date as it is written. -/
def text (d : Date) : Text :=
  Text.padded 4 d.year ++ '-' :: Text.padded 2 d.month ++ '-' :: Text.padded 2 d.day

end Date

/-- A moment of a day. -/
structure Moment where
  date : Date
  hour : Nat
  minute : Nat
  second : Nat
  microsecond : Nat := 0
  /-- By how many seconds the clock is ahead of universal time, if that is known. -/
  offset : Option Int := none
deriving DecidableEq, Repr

namespace Moment

/-- The seconds of a day. -/
def daySeconds : Int := 86400

/-- A stretch of time as messages show it: whole days, and seconds that are not negative. -/
def inspectSeconds (seconds : Int) : Text :=
  let days := seconds.fdiv daySeconds
  let rest := seconds.fmod daySeconds
  let parts :=
    (if days = 0 then [] else [ "days=".toList ++ Text.ofInt days]) ++
    (if rest = 0 then [] else [ "seconds=".toList ++ Text.ofInt rest])
  "datetime.timedelta(".toList ++ (if parts.isEmpty then ['0'] else Text.join ", ".toList parts) ++
    [')']

/-- What is wrong with an offset: it must be less than a day. -/
def offsetFlaw? (offset : Int) : Option Text :=
  if offset.natAbs < 86400 then none
  else
    some ("offset must be a timedelta strictly between -timedelta(hours=24) and ".toList ++
      "timedelta(hours=24), not ".toList ++ inspectSeconds offset ++ ['.'])

/-- What is wrong with the moment, if there is no such moment. -/
def flaw? (m : Moment) : Option Text :=
  (m.offset.bind offsetFlaw?).or <| m.date.flaw?.or <|
    if 23 < m.hour then some "hour must be in 0..23".toList
    else if 59 < m.minute then some "minute must be in 0..59".toList
    else if 59 < m.second then some "second must be in 0..59".toList
    else none

/-- The microseconds up to the moment, of universal time if the offset is known. -/
def microseconds (m : Moment) : Int :=
  let clock : Int := 3600 * m.hour + 60 * m.minute + m.second
  1000000 * (daySeconds * m.date.number + clock - m.offset.getD 0) + m.microsecond

/-- The offset as it is written: hours and minutes after a sign. -/
def offsetText (offset : Int) : Text :=
  let minutes := offset.natAbs / 60
  (if offset < 0 then '-' else '+') :: Text.padded 2 (minutes / 60) ++
    ':' :: Text.padded 2 (minutes % 60)

/-- The moment as it is written. -/
def text (m : Moment) : Text :=
  m.date.text ++ ' ' :: Text.padded 2 m.hour ++ ':' :: Text.padded 2 m.minute ++
    ':' :: Text.padded 2 m.second ++
    (if m.microsecond = 0 then [] else '.' :: Text.padded 6 m.microsecond) ++
    (match m.offset with
      | some offset => offsetText offset
      | none => [])

/-- The moment as it is shown within a list or a map. Seconds and their fractions are left out if
they are zero. -/
def inspect (m : Moment) : Text :=
  let seconds := if m.microsecond ≠ 0 then [m.second, m.microsecond]
    else if m.second ≠ 0 then [m.second]
    else []
  let parts := [m.date.year, m.date.month, m.date.day, m.hour, m.minute] ++ seconds
  let zone := match m.offset with
    | none => []
    | some offset =>
      ", tzinfo=datetime.timezone".toList ++
        if offset = 0 then ".utc".toList else '(' :: inspectSeconds offset ++ [')']
  "datetime.datetime(".toList ++ Text.join ", ".toList (parts.map Text.ofNat) ++ zone ++ [')']

end Moment

end LinkedDocs
